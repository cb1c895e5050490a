import DiagramStudio.Share.State

/-!
Links: an address with a token behind its first mark.
-/

namespace DiagramStudio.Link

/-- A text up to its first mark. -/
def base (address : List Char) : List Char :=
  address.takeWhile (· != SharedState.mark)

/-- The link that carries a token at an address; a token that the address carried is replaced. -/
def make (address token : List Char) : List Char :=
  base address ++ SharedState.mark :: token

/-- The token that a link carries; a text without a mark is a token itself. -/
def token? (link : List Char) : Option (List Char) :=
  let behind := match Text.cut? (· == SharedState.mark) link with
    | some (_, rest) => rest
    | none => link
  let token := Text.trim behind
  if token.isEmpty then none else some token

end DiagramStudio.Link
