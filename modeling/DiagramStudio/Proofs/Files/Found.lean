import DiagramStudio.Proofs.Files.Growth

/-!
Where a file is to be written is where its path leads, once something is there (`reaches_of_fileFrom`): so a file
that was written is found again, unless there are too many links on the way. Directories are made so that they
are there from then on (`makeDirectories_again`).
-/

namespace DiagramStudio.Disk

variable {d d' : Disk}

/-! ## The last name of a path -/

/-- A name of something in a directory, neither the directory itself nor the one around it. -/
def IsName (name : List Char) : Prop := Path.isEmptyStep name = false ∧ name ≠ Path.above

theorem step_of_isName {name : List Char} (isName : IsName name) (place : Place) :
    d.step place name =
      match d.child place name with
      | .error fault => .error fault
      | .ok place => if (d.at? place).isSome then .ok place else .error .notFound := by
  rw [step]
  exact if_neg (by simp [isName.1, isName.2])

/-- A name leads where it is in its directory, once something is there. -/
theorem step_eq_ok_iff {name : List Char} (isName : IsName name) {place goal : Place} :
    d.step place name = .ok goal ↔ d.child place name = .ok goal ∧ (d.at? goal).isSome = true := by
  rw [step_of_isName isName]
  cases d.child place name with
  | error fault => simp
  | ok found =>
    simp only
    split
    · next there => exact ⟨fun same => by cases same; exact ⟨rfl, there⟩, fun same => same.1⟩
    · next missing =>
      refine ⟨nofun, fun ⟨same, there⟩ => ?_⟩
      cases same
      exact absurd there missing

/-- Behind the last name of a path there are only separators, and they are seen at its end. -/
theorem gap_eq_nil {path name : List Char} {outer gap : List (List Char)}
    (names : Path.names path = outer ++ name :: gap) (some_ : name ≠ []) (empty : ∀ g ∈ gap, g = [])
    (ends : path.getLast? ≠ some Path.separator) : gap = [] := by
  have notNil : path ≠ [] := by
    rintro rfl
    have alone : [[]] = outer ++ name :: gap := names
    have inside : name ∈ [[]] := alone ▸ List.mem_append_right _ List.mem_cons_self
    exact some_ (List.mem_singleton.mp inside)
  obtain ⟨piece, last, full⟩ := Text.exists_getLast?_pieces (· == Path.separator) notNil
    (fun c member => by
      rw [← Bool.not_eq_true, beq_iff_eq]
      rintro rfl
      exact ends member)
  rcases List.eq_nil_or_concat gap with none | ⟨front, g, same⟩
  · exact none
  · rw [List.concat_eq_append] at same
    subst same
    have ends : Path.names path = (outer ++ name :: front) ++ [g] := by simpa using names
    have last : (Path.names path).getLast? = some piece := last
    rw [ends, List.getLast?_concat] at last
    cases last
    exact absurd (empty _ (List.mem_append_right _ List.mem_cons_self)) full

/-- The parts of a path that leads to a name: the names in front of it, and separators behind it. -/
theorem targetFrom_some {here directory : Place} {path name : List Char} {trailing : Bool}
    (target : d.targetFrom here path = .ok ⟨directory, some name, trailing⟩) :
    ∃ outer gap, Path.names path = outer ++ name :: gap ∧ (path.getLast? ≠ some Path.separator → gap = []) ∧
      trailing = (path.getLast? == some Path.separator) ∧ IsName name ∧
      d.walk linkMax (startFrom here path) outer = .ok directory := by
  simp only [targetFrom] at target
  generalize startFrom here path = place at target ⊢
  split at target
  · cases target
  next name' outer cut =>
  split at target
  · cases walked : d.walk linkMax place ((Path.names path).reverse.dropWhile (·.isEmpty)).reverse with
    | error fault =>
      rw [walked] at target
      cases target
    | ok goal =>
      rw [walked] at target
      cases target
  next other =>
  cases walked : d.walk linkMax place outer.reverse with
  | error fault =>
    rw [walked] at target
    cases target
  | ok goal =>
    rw [walked] at target
    cases target
    rw [not_or] at other
    have parts := List.takeWhile_append_dropWhile (p := fun name : List Char => name.isEmpty)
      (l := (Path.names path).reverse)
    rw [cut] at parts
    have names := congrArg List.reverse parts
    simp only [List.reverse_append, List.reverse_cons, List.append_assoc, List.singleton_append,
      List.reverse_reverse] at names
    have some_ : name ≠ [] := by
      have first := List.head?_dropWhile_not (fun name : List Char => name.isEmpty) (Path.names path).reverse
      rw [cut] at first
      simpa using first
    have empty : ∀ g ∈ ((Path.names path).reverse.takeWhile (·.isEmpty)).reverse, g = [] := by
      intro g member
      rw [List.mem_reverse] at member
      exact List.isEmpty_iff.mp (List.all_eq_true.mp List.all_takeWhile g member)
    refine ⟨outer.reverse, _, names.symm, gap_eq_nil names.symm some_ empty, rfl, ⟨?_, other.2⟩, walked⟩
    simp [Path.isEmptyStep, some_, other.1]

theorem targetFrom_eq {here directory : Place} {path name : List Char} {outer : List (List Char)}
    (names : Path.names path = outer ++ [name]) (isName : IsName name)
    (walked : d.walk linkMax (startFrom here path) outer = .ok directory) :
    d.targetFrom here path = .ok ⟨directory, some name, path.getLast? == some Path.separator⟩ := by
  have some_ : name.isEmpty = false := (Bool.or_eq_false_iff.mp isName.1).1
  have notHere : name ≠ Path.here := by simpa using (Bool.or_eq_false_iff.mp isName.1).2
  have cut : (Path.names path).reverse.dropWhile (·.isEmpty) = name :: outer.reverse := by
    rw [names, List.reverse_append, List.reverse_singleton, List.singleton_append,
      List.dropWhile_cons_of_neg (by rw [some_]; exact Bool.false_ne_true)]
  simp only [targetFrom, cut]
  rw [if_neg (not_or.mpr ⟨notHere, isName.2⟩), List.reverse_reverse, walked]
  rfl

/-! ## Files to be written -/

/-- What is known of the place of a file to be written: its name in a directory, at which nothing stands, or a link
    that leads on, or something that may be written. -/
theorem fileFrom_cases {links : Nat} {here place : Place} {path : List Char}
    (found : d.fileFrom links here path = .ok place) :
    ∃ more outer name directory inside, links = more + 1 ∧ path.getLast? ≠ some Path.separator ∧
      Path.names path = outer ++ [name] ∧ IsName name ∧ d.walk linkMax (startFrom here path) outer = .ok directory ∧
      d.child directory name = .ok inside ∧
      ((d.nodeAt? inside = none ∧ place = inside) ∨
        (∃ n target, d.nodeAt? inside = some n ∧ n.content = .link target ∧
          d.fileFrom more directory target = .ok place) ∨
        ∃ n, d.nodeAt? inside = some n ∧ (∀ target, n.content ≠ .link target) ∧ n.content ≠ .directory ∧
          n.allows .write = true ∧ place = inside) := by
  cases links with
  | zero => cases found
  | succ links =>
    rw [fileFrom] at found
    split at found
    · cases found
    · cases found
    next directory name trailing target =>
    split at found
    · cases found
    split at found
    · cases found
    next ends =>
    obtain ⟨outer, gap, names, none, trailing, isName, walked⟩ := targetFrom_some target
    have ends : path.getLast? ≠ some Path.separator := by simpa [trailing] using ends
    rw [none ends] at names
    split at found
    · cases found
    next inside child =>
    refine ⟨links, outer, name, directory, inside, rfl, ends, names, isName, walked, child, ?_⟩
    split at found
    · next nothing =>
      split at found
      · cases found
        exact .inl ⟨nothing, rfl⟩
      · cases found
    · next n there =>
      split at found
      · next target link => exact .inr (.inl ⟨n, target, there, link, found⟩)
      · cases found
      · next noLink noDirectory =>
        split at found
        · next writable =>
          cases found
          exact .inr (.inr ⟨n, there, noLink, noDirectory, writable, rfl⟩)
        · cases found

/-- What is there at the place of a file to be written is no link. -/
theorem plain_of_file {place : Place} {bytes : List UInt8} (file : d.at? place = some (.file bytes)) :
    ∀ target, d.at? place ≠ some (.link target) := by
  intro target
  rw [file]
  exact nofun

/-- A path leads to the place of the file that is written by it, once a file is there. -/
theorem reaches_of_fileFrom {links : Nat} {here place : Place} {path : List Char}
    (found : d.fileFrom links here path = .ok place) (grown : Grown d d') {bytes : List UInt8}
    (file : d'.at? place = some (.file bytes)) :
    ∃ links, d'.Reaches links (startFrom here path) (Path.names path) place := by
  induction links generalizing here path with
  | zero => cases found
  | succ links ih =>
    obtain ⟨more, outer, name, directory, inside, same, _, names, isName, walked, child, ends⟩ := fileFrom_cases found
    cases same
    obtain ⟨before, _, first⟩ := exists_reaches walked
    have first := grown.reaches first
    have child' := grown.child child
    rw [names]
    rcases ends with ⟨_, rfl⟩ | ⟨n, target, there, link, onward⟩ | ⟨_, _, _, _, _, rfl⟩
    · have stepped := (step_eq_ok_iff isName).mpr ⟨child', by rw [file, Option.isSome_some]⟩
      exact ⟨_, first.append (.step stepped (plain_of_file file) .here)⟩
    · have isLink : d.at? inside = some (.link target) := by rw [at?, there, Option.map_some, link]
      have isLink' := grown.at?_eq isLink fun bytes same => by cases same
      have stepped := (step_eq_ok_iff isName).mpr ⟨child', by rw [isLink', Option.isSome_some]⟩
      obtain ⟨behind, reaches⟩ := ih onward
      rw [← List.append_nil (Path.names target)] at reaches
      exact ⟨_, first.append (.link stepped isLink' reaches)⟩
    · have stepped := (step_eq_ok_iff isName).mpr ⟨child', by rw [file, Option.isSome_some]⟩
      exact ⟨_, first.append (.step stepped (plain_of_file file) .here)⟩

/-- A path that leads somewhere leads to the place of the file that is written by it. -/
theorem eq_of_fileFrom {links : Nat} {here place : Place} {path : List Char}
    (found : d.fileFrom links here path = .ok place) {count : Nat} {goal : Place}
    (reaches : d.Reaches count (startFrom here path) (Path.names path) goal) : goal = place := by
  induction links generalizing here path count with
  | zero => cases found
  | succ links ih =>
    obtain ⟨more, outer, name, directory, inside, same, _, names, isName, walked, child, ends⟩ := fileFrom_cases found
    cases same
    obtain ⟨_, _, first⟩ := exists_reaches walked
    obtain ⟨_, _, middle, _, first', last⟩ := reaches.split names
    cases first.unique first'
    cases last with
    | step stepped plain behind =>
      cases behind
      obtain ⟨child', there⟩ := (step_eq_ok_iff isName).mp stepped
      rw [child] at child'
      cases child'
      rcases ends with ⟨nothing, rfl⟩ | ⟨n, target, at_, link, _⟩ | ⟨_, _, _, _, _, rfl⟩
      · rfl
      · exact absurd (by rw [at?, at_, Option.map_some, link]) (plain target)
      · rfl
    | link stepped isLink behind =>
      obtain ⟨child', there⟩ := (step_eq_ok_iff isName).mp stepped
      rw [child] at child'
      cases child'
      rcases ends with ⟨nothing, _⟩ | ⟨n, target, at_, link, onward⟩ | ⟨n, at_, noLink, _⟩
      · rw [at?, nothing] at isLink
        cases isLink
      · rw [at?, at_, Option.map_some, link] at isLink
        cases isLink
        rw [List.append_nil] at behind
        exact ih onward behind
      · rw [at?, at_, Option.map_some] at isLink
        exact absurd (Option.some.inj isLink) (noLink _)

/-- How the place of a file to be written is found in the directory of its path. -/
theorem fileFrom_succ {here directory inside : Place} {path name : List Char} {outer : List (List Char)}
    (ends : path.getLast? ≠ some Path.separator) (names : Path.names path = outer ++ [name]) (isName : IsName name)
    (walked : d.walk linkMax (startFrom here path) outer = .ok directory) (child : d.child directory name = .ok inside)
    {n : Node} (there : d.nodeAt? inside = some n) (links : Nat) :
    d.fileFrom (links + 1) here path =
      match n.content with
      | .link target => d.fileFrom links directory target
      | .directory => .error .isDirectory
      | _ => if n.allows .write then .ok inside else .error .notPermitted := by
  have isDirectory : d.isDirectoryAt directory = true := by
    unfold Disk.child at child
    split at child
    · cases child
    · next directory => simpa using directory
  have trailing : (path.getLast? == some Path.separator) = false := by simpa using ends
  rw [fileFrom, targetFrom_eq names isName walked]
  cases content : n.content <;>
    simp only [isDirectory, trailing, child, there, content, Bool.not_true, Bool.false_eq_true, if_false]

theorem walk_grown (grown : Grown d d') {most : Nat} {place goal : Place} {names : List (List Char)}
    (walked : d.walk most place names = .ok goal) : d'.walk most place names = .ok goal := by
  obtain ⟨links, few, reaches⟩ := exists_reaches walked
  exact walk_eq_ok_iff.mpr ⟨links, few, grown.reaches reaches⟩

theorem locate_grown (grown : Grown d d') {path : List Char} {place : Place} (located : d.locate path = .ok place) :
    d'.locate path = .ok place := by
  rw [locate] at located ⊢
  split at located
  · cases located
  simp only [start, grown.here]
  exact walk_grown grown located

/-- A file that could be written can be written again, if the file that is there now may be. -/
theorem fileFrom_grown {links : Nat} {here place : Place} {path : List Char}
    (found : d.fileFrom links here path = .ok place) (grown : Grown d d') {n' : Node}
    (there : d'.nodeAt? place = some n') {bytes : List UInt8} (file : n'.content = .file bytes)
    (writable : n'.allows .write = true) : d'.fileFrom links here path = .ok place := by
  induction links generalizing here path with
  | zero => cases found
  | succ links ih =>
    obtain ⟨more, outer, name, directory, inside, same, ends, names, isName, walked, child, last⟩ :=
      fileFrom_cases found
    cases same
    have onward {n : Node} (at_ : d'.nodeAt? inside = some n) :=
      fileFrom_succ ends names isName (walk_grown grown walked) (grown.child child) at_ links
    rcases last with ⟨_, rfl⟩ | ⟨n, target, at_, link, behind⟩ | ⟨_, _, _, _, _, rfl⟩
    · rw [onward there]
      simp only [file, writable, if_true]
    · obtain ⟨m, at', becomes⟩ := grown.kept at_
      have link' : m.content = .link target := by
        rcases becomes.content with same | ⟨_, _, content, _⟩
        · rw [same, link]
        · rw [link] at content
          cases content
      rw [onward at']
      simp only [link']
      exact ih behind
    · rw [onward there]
      simp only [file, writable, if_true]

/-! ## Reading -/

/-- A path leads to a file that holds these bytes. -/
def LeadsTo (d : Disk) (path : List Char) (place : Place) (bytes : List UInt8) : Prop :=
  pathFault? path = none ∧ (∃ links, d.Reaches links (d.start path) (Path.names path) place) ∧
    d.at? place = some (.file bytes)

/-- A file is found again as long as it is what it was. -/
theorem LeadsTo.kept {path : List Char} {place : Place} {bytes : List UInt8} (leads : d.LeadsTo path place bytes)
    (grown : Grown d d') (same : d'.at? place = d.at? place) : d'.LeadsTo path place bytes := by
  obtain ⟨sound, ⟨links, reaches⟩, file⟩ := leads
  refine ⟨sound, ⟨links, ?_⟩, same.trans file⟩
  rw [start, grown.here]
  exact grown.reaches reaches

/-- A file that a path leads to is read, or there is more in the way than that it is missing. -/
theorem LeadsTo.read_cases {path : List Char} {place : Place} {bytes : List UInt8}
    (leads : d.LeadsTo path place bytes) :
    d.read path = .ok bytes ∨ d.read path = .error .tooManyLinks ∨ d.read path = .error .notPermitted := by
  obtain ⟨sound, ⟨links, reaches⟩, file⟩ := leads
  obtain ⟨n, there, content⟩ := Option.map_eq_some_iff.mp file
  have located : d.locate path = if links ≤ linkMax then .ok place else .error .tooManyLinks := by
    rw [locate, sound]
    exact reaches.walk_eq linkMax
  rw [read, located]
  by_cases few : links ≤ linkMax
  · simp only [if_pos few, there, content, bytesIn]
    by_cases readable : n.allows .read = true
    · exact .inl (if_pos readable)
    · exact .inr (.inr (if_neg readable))
  · simp only [if_neg few]
    exact .inr (.inl trivial)

/-- What is read of a file is what the file at the end of the path holds. -/
theorem leadsTo_of_read {path : List Char} {place : Place} {bytes old : List UInt8}
    (located : d.locate path = .ok place) (file : d.at? place = some (.file old)) (read : d.read path = .ok bytes) :
    d.LeadsTo path place bytes := by
  obtain ⟨n, there, content⟩ := Option.map_eq_some_iff.mp file
  have same : bytes = old := by
    rw [Disk.read, located] at read
    simp only [there, content, bytesIn] at read
    split at read
    · cases read
      rfl
    · cases read
  subst same
  rw [locate] at located
  split at located
  · cases located
  next sound =>
  obtain ⟨links, _, reaches⟩ := exists_reaches located
  exact ⟨sound, ⟨links, reaches⟩, file⟩

/-! ## Writing -/

theorem pathFault?_of_fileAt {path : List Char} {place : Place} (found : d.fileAt path = .ok place) :
    pathFault? path = none ∧ d.fileFrom linkMax d.here path = .ok place := by
  rw [fileAt] at found
  split at found
  · cases found
  · next sound => exact ⟨sound, found⟩

theorem write_eq {path : List Char} {place : Place} (found : d.fileAt path = .ok place)
    (fillable : d.Fillable place) (bytes : List UInt8) : d.write path bytes = .ok (d.fill place bytes) := by
  rw [write, found]
  refine if_neg fun full => ?_
  rcases fillable with nothing | ⟨old, file⟩
  · rw [nothing] at full
    cases full.1
  · rw [file] at full
    cases full.1

/-- A file written is filled, or nothing of what is written is kept. -/
theorem write_cases {path : List Char} {bytes : List UInt8} (written : d.write path bytes = .ok d') :
    ∃ place, d.fileAt path = .ok place ∧ (d' = d ∨ d.Fillable place ∧ d' = d.fill place bytes) := by
  rw [write] at written
  split at written
  · cases written
  next place found =>
  split at written
  · cases written
  cases written
  refine ⟨place, found, ?_⟩
  rw [fill]
  split
  · next old file => exact .inr ⟨.inr ⟨old, file⟩, rfl⟩
  · next nothing => exact .inr ⟨.inl nothing, rfl⟩
  · exact .inl rfl

/-- A path leads to the file that was written by it. -/
theorem leadsTo_fill {path : List Char} {place : Place} (found : d.fileAt path = .ok place)
    (fillable : d.Fillable place) (bytes : List UInt8) : (d.fill place bytes).LeadsTo path place bytes := by
  obtain ⟨sound, found⟩ := pathFault?_of_fileAt found
  have grown := grown_fill fillable bytes
  have file := at?_fill fillable bytes
  have start : (d.fill place bytes).start path = startFrom d.here path := by rw [start, grown.here]
  exact ⟨sound, by rw [start]; exact reaches_of_fileFrom found grown file, file⟩

/-- A file that was written can be written again, if its rights are such. -/
theorem fileAt_fill {path : List Char} {place : Place} (found : d.fileAt path = .ok place)
    (fillable : d.Fillable place) (bytes : List UInt8)
    (writable : ((d.nodeAt? place).getD (d.made (.file []))).allows .write = true) :
    (d.fill place bytes).fileAt path = .ok place := by
  obtain ⟨sound, found⟩ := pathFault?_of_fileAt found
  have grown := grown_fill fillable bytes
  obtain ⟨n, there, content, rights⟩ := nodeAt?_fill fillable bytes
  rw [fileAt, sound, grown.here]
  exact fileFrom_grown found grown there content (by rw [rights, writable])

/-- A file that was written is at the end of its path, if no link stands there. -/
theorem locate_fill {path : List Char} {place : Place} (sound : pathFault? path = none)
    (found : d.fileFrom 1 d.here path = .ok place) (fillable : d.Fillable place) (bytes : List UInt8) :
    (d.fill place bytes).locate path = .ok place := by
  have grown := grown_fill fillable bytes
  have file := at?_fill fillable bytes
  obtain ⟨more, outer, name, directory, inside, none, _, names, isName, walked, child, ends⟩ := fileFrom_cases found
  cases none
  have same : place = inside := by
    rcases ends with ⟨_, same⟩ | ⟨_, _, _, _, onward⟩ | ⟨_, _, _, _, _, same⟩
    · exact same
    · cases onward
    · exact same
  subst same
  obtain ⟨links, few, first⟩ := exists_reaches (walk_grown grown walked)
  have stepped := (step_eq_ok_iff isName).mpr ⟨grown.child child, by rw [file, Option.isSome_some]⟩
  have reaches := first.append (.step stepped (plain_of_file file) .here)
  rw [locate, sound, names, start, grown.here]
  exact walk_eq_ok_iff.mpr ⟨_, few, reaches⟩

/-- A file that was written can be read, if its rights are such. -/
theorem read_fill {path : List Char} {place : Place} (fillable : d.Fillable place)
    (bytes : List UInt8) (located : (d.fill place bytes).locate path = .ok place)
    (readable : ((d.nodeAt? place).getD (d.made (.file []))).allows .read = true) :
    (d.fill place bytes).read path = .ok bytes := by
  obtain ⟨n, there, content, rights⟩ := nodeAt?_fill fillable bytes
  rw [read, located]
  simp only [there, content, rights, readable, if_true, bytesIn]

/-- A file that a path leads to is the one that is written by it. -/
theorem LeadsTo.eq_of_fileAt {path : List Char} {place goal : Place} {bytes : List UInt8}
    (leads : d.LeadsTo path place bytes) (found : d.fileAt path = .ok goal) : place = goal := by
  obtain ⟨_, ⟨links, reaches⟩, _⟩ := leads
  exact eq_of_fileFrom (pathFault?_of_fileAt found).2 reaches

theorem LeadsTo.fillable {path : List Char} {place : Place} {bytes : List UInt8} (leads : d.LeadsTo path place bytes) :
    d.Fillable place := .inr ⟨bytes, leads.2.2⟩

end DiagramStudio.Disk
