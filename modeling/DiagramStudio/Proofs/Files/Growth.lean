import DiagramStudio.Proofs.Files.Walk

/-!
What writing files and making directories leave of a file system. Nothing goes (`Grown`): what stood at a place
stands there still, with its rights, and it holds the same unless it is a file. Of the files only one is filled
(`at?_fill`).
-/

namespace DiagramStudio

/-- What may become of something that is kept: all that changes is when it was changed and, in a file, the
    bytes. -/
structure Node.Becomes (n n' : Node) : Prop where
  mode : n'.mode = n.mode
  owned : n'.owned = n.owned
  content : n'.content = n.content ∨ ∃ bytes bytes', n.content = .file bytes ∧ n'.content = .file bytes'

theorem Node.Becomes.refl (n : Node) : n.Becomes n := ⟨rfl, rfl, .inl rfl⟩

theorem Node.Becomes.trans {n n' n'' : Node} (first : n.Becomes n') (second : n'.Becomes n'') : n.Becomes n'' := by
  refine ⟨second.mode.trans first.mode, second.owned.trans first.owned, ?_⟩
  rcases first.content with same | ⟨bytes, bytes', file, file'⟩
  · rw [← same]
    exact second.content
  · rcases second.content with same | ⟨_, bytes'', _, file''⟩
    · exact .inr ⟨bytes, bytes', file, same.trans file'⟩
    · exact .inr ⟨bytes, bytes'', file, file''⟩

theorem Node.Becomes.allows {n n' : Node} (becomes : n.Becomes n') (r : Right) : n'.allows r = n.allows r := by
  rw [Node.allows, Node.allows, becomes.mode, becomes.owned]

namespace Disk

variable {d : Disk}

/-! ## Numbers -/

theorem node?_setNode (d : Disk) (number other : Nat) (n : Node) :
    (d.setNode number n).node? other = if other = number then some n else d.node? other := by
  unfold node? setNode
  by_cases same : other = number
  · subst same
    simp [entryFor?_withEntry_self]
  · simp [entryFor?_withEntry_of_ne same, same]

theorem numberAt?_setNode (d : Disk) (number : Nat) (n : Node) (place : Place) :
    (d.setNode number n).numberAt? place = d.numberAt? place := rfl

theorem le_foldl_max (nodes : List (Nat × Node)) (start : Nat) :
    start ≤ nodes.foldl (fun n e => max n (e.1 + 1)) start := by
  induction nodes generalizing start with
  | nil => exact Nat.le_refl _
  | cons first more ih => exact Nat.le_trans (Nat.le_max_left ..) (ih _)

theorem lt_foldl_max {nodes : List (Nat × Node)} {e : Nat × Node} (member : e ∈ nodes) (start : Nat) :
    e.1 < nodes.foldl (fun n e => max n (e.1 + 1)) start := by
  induction nodes generalizing start with
  | nil => cases member
  | cons first more ih =>
    rcases List.mem_cons.mp member with rfl | later
    · exact Nat.lt_of_lt_of_le (Nat.lt_succ_self _) (Nat.le_trans (Nat.le_max_right ..) (le_foldl_max more _))
    · exact ih later _

theorem node?_fresh (d : Disk) : d.node? d.fresh = none := by
  have notRoot : d.fresh ≠ rootNumber := Nat.ne_of_gt (Nat.lt_of_lt_of_le (Nat.lt_succ_self _) (le_foldl_max d.nodes _))
  rw [node?, if_neg notRoot]
  exact entryFor?_eq_none fun e member => Nat.ne_of_lt (lt_foldl_max member _)

/-- What stands somewhere has not got the number that nothing has yet. -/
theorem ne_fresh {place : Place} {number : Nat} (at_ : d.numberAt? place = some number) : number ≠ d.fresh := by
  rintro rfl
  have kept := isSome_node? at_
  rw [node?_fresh] at kept
  cases kept

theorem at?_eq {place : Place} {number : Nat} (at_ : d.numberAt? place = some number) :
    d.at? place = (d.node? number).map (·.content) := by
  rw [at?, nodeAt?, at_, Option.bind_some]

theorem numberAt?_isSome {place : Place} {n : Node} (at_ : d.nodeAt? place = some n) :
    ∃ number, d.numberAt? place = some number ∧ d.node? number = some n :=
  Option.bind_eq_some_iff.mp at_

theorem numberAt?_eq_none {place : Place} (nothing : d.at? place = none) : d.numberAt? place = none := by
  cases at_ : d.numberAt? place with
  | none => rfl
  | some number =>
    obtain ⟨n, kept⟩ := Option.isSome_iff_exists.mp (isSome_node? at_)
    rw [at?_eq at_, kept] at nothing
    cases nothing

/-! ## Growth -/

/-- Nothing has gone, what was there is at most filled with other bytes, and what is new is no link. -/
structure Grown (d d' : Disk) : Prop where
  here : d'.here = d.here
  kept {place : Place} {n : Node} (at_ : d.nodeAt? place = some n) : ∃ n', d'.nodeAt? place = some n' ∧ n.Becomes n'
  noLink {place : Place} {target : List Char} (isLink : d'.at? place = some (.link target)) :
    d.at? place = some (.link target)

namespace Grown

variable {d' d'' : Disk}

theorem refl (d : Disk) : Grown d d := ⟨rfl, fun at_ => ⟨_, at_, .refl _⟩, id⟩

theorem trans (first : Grown d d') (second : Grown d' d'') : Grown d d'' := by
  refine ⟨second.here.trans first.here, fun at_ => ?_, first.noLink ∘ second.noLink⟩
  obtain ⟨n', at', becomes⟩ := first.kept at_
  obtain ⟨n'', at'', becomes'⟩ := second.kept at'
  exact ⟨n'', at'', becomes.trans becomes'⟩

variable (grown : Grown d d')
include grown

theorem allowsAt {place : Place} {r : Right} (allowed : d.allowsAt place r = true) : d'.allowsAt place r = true := by
  unfold Disk.allowsAt at allowed ⊢
  split at allowed
  · next n at_ =>
    obtain ⟨n', at', becomes⟩ := grown.kept at_
    simp only [at', becomes.allows, allowed]
  · cases allowed

/-- What is no file stays what it is. -/
theorem at?_eq {place : Place} {content : Content} (at_ : d.at? place = some content)
    (noFile : ∀ bytes, content ≠ .file bytes) : d'.at? place = some content := by
  obtain ⟨n, kept, rfl⟩ := Option.map_eq_some_iff.mp at_
  obtain ⟨n', at', becomes⟩ := grown.kept kept
  rcases becomes.content with same | ⟨bytes, _, file, _⟩
  · rw [Disk.at?, at', Option.map_some, same]
  · exact absurd file (noFile bytes)

/-- What is a file stays one. -/
theorem at?_file {place : Place} {bytes : List UInt8} (at_ : d.at? place = some (.file bytes)) :
    ∃ bytes', d'.at? place = some (.file bytes') := by
  obtain ⟨n, kept, content⟩ := Option.map_eq_some_iff.mp at_
  obtain ⟨n', at', becomes⟩ := grown.kept kept
  rcases becomes.content with same | ⟨_, bytes', _, file⟩
  · exact ⟨bytes, by rw [Disk.at?, at', Option.map_some, same, content]⟩
  · exact ⟨bytes', by rw [Disk.at?, at', Option.map_some, file]⟩

theorem isDirectoryAt {place : Place} (directory : d.isDirectoryAt place = true) : d'.isDirectoryAt place = true := by
  rw [Disk.isDirectoryAt, beq_iff_eq] at directory ⊢
  exact grown.at?_eq directory nofun

theorem at?_isSome {place : Place} (some_ : (d.at? place).isSome = true) : (d'.at? place).isSome = true := by
  obtain ⟨content, at_⟩ := Option.isSome_iff_exists.mp some_
  cases content with
  | file bytes =>
    obtain ⟨bytes', at'⟩ := grown.at?_file at_
    rw [at', Option.isSome_some]
  | _ => rw [grown.at?_eq at_ nofun, Option.isSome_some]

theorem child {place goal : Place} {name : List Char} (found : d.child place name = .ok goal) :
    d'.child place name = .ok goal := by
  unfold Disk.child at found ⊢
  split at found
  · cases found
  next directory =>
  split at found
  · cases found
  next enter =>
  rw [Bool.not_eq_true, Bool.not_eq_false'] at directory enter
  rw [if_neg (by rw [grown.isDirectoryAt directory]; exact Bool.false_ne_true),
    if_neg (by rw [grown.allowsAt enter]; exact Bool.false_ne_true)]
  exact found

theorem step {place goal : Place} {name : List Char} (found : d.step place name = .ok goal) :
    d'.step place name = .ok goal := by
  unfold Disk.step at found ⊢
  split at found
  · next still =>
    rw [if_pos still]
    split at found
    · cases found
    next directory =>
    split at found
    · cases found
    next enter =>
    rw [Bool.not_eq_true, Bool.not_eq_false'] at directory enter
    rw [if_neg (by rw [grown.isDirectoryAt directory]; exact Bool.false_ne_true),
      if_neg (by rw [grown.allowsAt enter]; exact Bool.false_ne_true)]
    exact found
  · next moves =>
    rw [if_neg moves]
    split at found
    · cases found
    next next_ inside =>
    split at found
    · next some_ =>
      cases found
      simp only [grown.child inside, grown.at?_isSome some_, if_true]
    · cases found

theorem reaches {links : Nat} {place goal : Place} {names : List (List Char)}
    (reaches : d.Reaches links place names goal) : d'.Reaches links place names goal := by
  induction reaches with
  | here => exact .here
  | step stepped plain _ ih => exact .step (grown.step stepped) (fun target => plain target ∘ grown.noLink) ih
  | link stepped isLink _ ih => exact .link (grown.step stepped) (grown.at?_eq isLink nofun) ih

end Grown

/-! ## Changes -/

theorem nodeAt?_setNode (d : Disk) (number : Nat) (n : Node) (place : Place) :
    (d.setNode number n).nodeAt? place =
      (d.numberAt? place).bind fun other => if other = number then some n else d.node? other :=
  congrArg (Option.bind (d.numberAt? place)) (funext fun other => node?_setNode d number other n)

theorem grown_setNode {number : Nat} {n n' : Node} (kept : d.node? number = some n) (becomes : n.Becomes n') :
    Grown d (d.setNode number n') := by
  have same {place : Place} {other : Node} (at_ : d.nodeAt? place = some other) :
      ∃ other', (d.setNode number n').nodeAt? place = some other' ∧ other.Becomes other' := by
    obtain ⟨k, at_, kept'⟩ := numberAt?_isSome at_
    rw [nodeAt?_setNode, at_, Option.bind_some]
    by_cases this : k = number
    · subst this
      rw [kept] at kept'
      cases kept'
      exact ⟨n', if_pos rfl, becomes⟩
    · exact ⟨other, by rw [if_neg this, kept'], .refl _⟩
  refine ⟨rfl, same, fun {place target} isLink => ?_⟩
  obtain ⟨other', at', content⟩ := Option.map_eq_some_iff.mp isLink
  rw [nodeAt?_setNode] at at'
  obtain ⟨k, at_, found⟩ := Option.bind_eq_some_iff.mp at'
  by_cases this : k = number
  · subst this
    rw [if_pos rfl] at found
    cases found
    rcases becomes.content with same | ⟨_, _, _, file⟩
    · rw [at?_eq at_, kept, Option.map_some, ← same, content]
    · rw [file] at content
      cases content
  · rw [if_neg this] at found
    rw [at?_eq at_, found, Option.map_some, content]

/-- Of what stands there only the time of a change is another. -/
theorem stamp_cases (d : Disk) (place : Place) :
    d.stamp place = d ∨ ∃ number n, d.node? number = some n ∧
      d.stamp place = d.setNode number { n with changed := d.tick } := by
  rw [stamp]
  split
  · next number _ =>
    split
    · next n kept => exact .inr ⟨number, n, kept, rfl⟩
    · exact .inl rfl
  · exact .inl rfl

theorem grown_stamp (d : Disk) (place : Place) : Grown d (d.stamp place) := by
  rcases stamp_cases d place with same | ⟨number, n, kept, same⟩
  · rw [same]
    exact .refl d
  · rw [same]
    exact grown_setNode kept ⟨rfl, rfl, .inl rfl⟩

theorem numberAt?_stamp (d : Disk) (place other : Place) : (d.stamp place).numberAt? other = d.numberAt? other := by
  rcases stamp_cases d place with same | ⟨number, n, _, same⟩ <;> rw [same]
  rfl

theorem at?_stamp (d : Disk) (place other : Place) : (d.stamp place).at? other = d.at? other := by
  rcases stamp_cases d place with same | ⟨number, n, kept, same⟩
  · rw [same]
  · rw [same, at?, nodeAt?_setNode, at?, nodeAt?]
    cases d.numberAt? other with
    | none => rfl
    | some k =>
      by_cases this : k = number
      · subst this
        simp [kept]
      · simp [this]

/-! ## What is new -/

section
variable {place : Place} (nothing : d.at? place = none)
include nothing

theorem numberAt?_placed (n : Node) (other : Place) :
    (d.placed place n).numberAt? other = if other = place then some d.fresh else d.numberAt? other := by
  have notRoot : place ≠ [] := by
    rintro rfl
    cases numberAt?_eq_none nothing
  unfold placed numberAt?
  by_cases same : other = place
  · subst same
    simp [notRoot, entryFor?_withEntry_self]
  · simp [same, entryFor?_withEntry_of_ne same]

theorem nodeAt?_placed (n : Node) (other : Place) :
    (d.placed place n).nodeAt? other = if other = place then some n else d.nodeAt? other := by
  have kept : (d.placed place n).node? = fun k => if k = d.fresh then some n else d.node? k :=
    funext fun k => node?_setNode d d.fresh k n
  rw [nodeAt?, numberAt?_placed nothing, kept]
  split
  · simp
  · rw [nodeAt?]
    cases at_ : d.numberAt? other with
    | none => rfl
    | some k => simp [ne_fresh at_]

theorem grown_placed {n : Node} (noLink : ∀ target, n.content ≠ .link target) : Grown d (d.placed place n) := by
  refine ⟨rfl, fun {other m} at_ => ⟨m, ?_, .refl m⟩, fun {other target} isLink => ?_⟩
  · have old : other ≠ place := by
      rintro rfl
      rw [at?, at_] at nothing
      cases nothing
    rw [nodeAt?_placed nothing, if_neg old, at_]
  · rw [at?, nodeAt?_placed nothing] at isLink
    split at isLink
    · exact absurd (Option.some.inj isLink) (noLink target)
    · exact isLink

theorem at?_add (n : Node) (other : Place) :
    (d.add place n).at? other = if other = place then some n.content else d.at? other := by
  rw [add, at?_stamp, at?, nodeAt?_placed nothing]
  split <;> rfl

theorem grown_add {n : Node} (noLink : ∀ target, n.content ≠ .link target) : Grown d (d.add place n) :=
  (grown_placed nothing noLink).trans (grown_stamp _ _)

theorem nodeAt?_add (n : Node) : ∃ n', (d.add place n).nodeAt? place = some n' ∧ n.Becomes n' :=
  (grown_stamp (d.placed place n) place.dropLast).kept (by rw [nodeAt?_placed nothing, if_pos rfl])

end

/-! ## A file filled -/

/-- Nothing stands at the place, or a file. -/
def Fillable (d : Disk) (place : Place) : Prop := d.at? place = none ∨ ∃ bytes, d.at? place = some (.file bytes)

/-- Two places are one, or they are places of one and the same thing. -/
def Shares (d : Disk) (place other : Place) : Prop :=
  other = place ∨ ∃ number, d.numberAt? place = some number ∧ d.numberAt? other = some number

/-- What filling a place comes to: something new there, or other bytes under the number of the file. -/
theorem fill_cases {place : Place} (fillable : d.Fillable place) (bytes : List UInt8) :
    (d.at? place = none ∧ d.fill place bytes = d.add place (d.made (.file bytes))) ∨
      ∃ number n, d.numberAt? place = some number ∧ d.node? number = some n ∧ (∃ old, n.content = .file old) ∧
        d.fill place bytes = d.setNode number { n with content := .file bytes, changed := d.tick } := by
  rcases fillable with nothing | ⟨old, file⟩
  · refine .inl ⟨nothing, ?_⟩
    rw [fill, nothing]
    simp only [put, numberAt?_eq_none nothing]
  · obtain ⟨n, at_, content⟩ := Option.map_eq_some_iff.mp file
    obtain ⟨number, at_, kept⟩ := numberAt?_isSome at_
    refine .inr ⟨number, n, at_, kept, ⟨old, content⟩, ?_⟩
    rw [fill, file]
    simp only [put, at_, refill, kept]

section
variable {place : Place} (fillable : d.Fillable place) (bytes : List UInt8)
include fillable

theorem grown_fill : Grown d (d.fill place bytes) := by
  rcases fill_cases fillable bytes with ⟨nothing, same⟩ | ⟨number, n, _, kept, ⟨old, content⟩, same⟩
  · rw [same]
    exact grown_add nothing nofun
  · rw [same]
    exact grown_setNode kept ⟨rfl, rfl, .inr ⟨old, bytes, content, rfl⟩⟩

/-- The file holds the bytes, with the rights that it had, or with those of something new. -/
theorem nodeAt?_fill : ∃ n, (d.fill place bytes).nodeAt? place = some n ∧ n.content = .file bytes ∧
    ∀ r, n.allows r = ((d.nodeAt? place).getD (d.made (.file []))).allows r := by
  rcases fill_cases fillable bytes with ⟨nothing, same⟩ | ⟨number, n, at_, kept, ⟨old, content⟩, same⟩
  · obtain ⟨n', there, becomes⟩ := nodeAt?_add nothing (d.made (.file bytes))
    have filled := at?_add nothing (d.made (.file bytes)) place
    rw [if_pos rfl, at?, there] at filled
    refine ⟨n', by rw [same, there], Option.some.inj filled, fun r => ?_⟩
    rw [becomes.allows, Option.map_eq_none_iff.mp nothing, Option.getD_none]
    rfl
  · refine ⟨{ n with content := .file bytes, changed := d.tick }, ?_, rfl, fun r => ?_⟩
    · rw [same, nodeAt?_setNode, at_, Option.bind_some, if_pos rfl]
    · rw [nodeAt?, at_, Option.bind_some, kept]
      rfl

theorem at?_fill : (d.fill place bytes).at? place = some (.file bytes) := by
  obtain ⟨n, at_, content, _⟩ := nodeAt?_fill fillable bytes
  rw [at?, at_, Option.map_some, content]

/-- Nothing else is changed by it. -/
theorem at?_fill_of_not_shares {other : Place} (apart : ¬ d.Shares place other) :
    (d.fill place bytes).at? other = d.at? other := by
  rcases fill_cases fillable bytes with ⟨nothing, same⟩ | ⟨number, n, at_, kept, _, same⟩
  · rw [same, at?_add nothing, if_neg fun same => apart (.inl same)]
  · rw [same, at?, nodeAt?_setNode, at?, nodeAt?]
    cases there : d.numberAt? other with
    | none => rfl
    | some k =>
      have other_ : k ≠ number := fun same => apart (.inr ⟨number, at_, by rw [there, same]⟩)
      rw [Option.bind_some, Option.bind_some, if_neg other_]

theorem not_shares_fill {other : Place} (apart : ¬ d.Shares place other) :
    ¬ (d.fill place bytes).Shares place other := by
  rintro (same | ⟨number, at_, there⟩)
  · exact apart (.inl same)
  · rcases fill_cases fillable bytes with ⟨nothing, same⟩ | ⟨_, _, _, _, _, same⟩
    · have old : other ≠ place := fun same => apart (.inl same)
      rw [same, add, numberAt?_stamp, numberAt?_placed nothing] at at_ there
      rw [if_pos rfl] at at_
      rw [if_neg old] at there
      cases at_
      exact ne_fresh there rfl
    · rw [same, numberAt?_setNode] at at_ there
      exact apart (.inr ⟨number, at_, there⟩)

end

end Disk

end DiagramStudio
