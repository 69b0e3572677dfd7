/-!
# Segments of a template

A template is literal text with **placeholders** in braces. A
placeholder starts at an opening brace that some closing brace follows,
but not at once, and ends at the nearest closing brace; what stands in
between is its token, which may hold opening braces and line breaks. All
other braces are literal text.

* `Segments` – a template cut into literal texts and tokens;
* `Segments.ofChars` – the cut of a text, from left to right;
* `Segments.chars` – the text of a cut;
* `Segments.tokens`, `Segments.fill` – the tokens in order, and the text
  with something put in the place of each placeholder.
-/
namespace GeoCatalogue

/-- **A template cut at its placeholders.** -/
inductive Segments where
  /-- Literal text without a placeholder after it. -/
  | done (literal : List Char)
  /-- Literal text, the token of a placeholder, and what follows. -/
  | placeholder (literal token : List Char) (rest : Segments)
deriving DecidableEq

namespace Segments

/-- **A token at the front of a text** – the characters up to the first
closing brace, at least one – and the text after that brace. -/
def tokenAtFront? (cs : List Char) : Option (List Char × List Char) :=
  match cs.takeWhile (· ≠ '}'), cs.dropWhile (· ≠ '}') with
  | c :: token, _ :: rest => some (c :: token, rest)
  | _, _ => none

/-- The text after a token is shorter than the text with it. -/
theorem length_lt_of_tokenAtFront? {cs token rest : List Char}
    (h : tokenAtFront? cs = some (token, rest)) :
    rest.length < cs.length := by
  have sum := congrArg List.length
    (List.takeWhile_append_dropWhile (p := (· ≠ '}')) (l := cs))
  rw [List.length_append] at sum
  unfold tokenAtFront? at h
  split at h
  · rename_i back
    rw [back] at sum
    simp only [Option.some.injEq, Prod.mk.injEq] at h
    simp only [List.length_cons, ← h.2] at sum ⊢
    omega
  · simp at h

/-- A cut with one more literal character in front. -/
def cons (c : Char) : Segments → Segments
  | done literal => done (c :: literal)
  | placeholder literal token rest => placeholder (c :: literal) token rest

/-- **The cut of a text.** -/
def ofChars (cs : List Char) : Segments :=
  match cs with
  | [] => done []
  | c :: rest =>
    if c = '{' then
      match h : tokenAtFront? rest with
      | some (token, after) =>
        have := length_lt_of_tokenAtFront? h
        placeholder [] token (ofChars after)
      | none => cons c (ofChars rest)
    else cons c (ofChars rest)
termination_by cs.length

/-- The cut of a template text. -/
def ofString (template : String) : Segments :=
  ofChars template.toList

/-- **The text of a cut.** -/
def chars : Segments → List Char
  | done literal => literal
  | placeholder literal token rest =>
    literal ++ '{' :: token ++ '}' :: rest.chars

/-- **The tokens of a cut**, in order. -/
def tokens : Segments → List String
  | done _ => []
  | placeholder _ token rest => String.ofList token :: rest.tokens

/-- **The text with every placeholder filled in**; the first placeholder
that cannot be filled decides the failure. -/
def fill {ε : Type} (value : String → Except ε String) :
    Segments → Except ε (List Char)
  | done literal => .ok literal
  | placeholder literal token rest => do
    let filled ← value (String.ofList token)
    let after ← rest.fill value
    .ok (literal ++ filled.toList ++ after)

end Segments

end GeoCatalogue
