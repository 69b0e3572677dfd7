import GeoCatalogue.Proofs.Outcome
import GeoCatalogue.Xml.Document

/-!
# Documents without entities

Most documents neither declare entities nor refer to any. Then nothing is
expanded: the tokens that a document is cut into are the tokens that its nodes
are put together from, and the characters between the quotes of an attribute
are its value. What is left of reading is a recursion on the tokens and one on
the nodes, which can be followed step by step (`Element.parse_of_plain`).
-/
namespace GeoCatalogue.Xml

deriving instance DecidableEq for Piece
deriving instance DecidableEq for Token

/-- **Tokens that stay as they are**: all but references and the declaration of
a document type. -/
def Token.isPlain : Token → Bool
  | .reference _ | .doctype _ => false
  | _ => true

namespace Document

variable {declared : List (List Char × List Char)} {tokens : List Token}

theorem entities_of_plain (h : ∀ t ∈ tokens, t.isPlain = true) :
    entities tokens = [] := by
  refine List.flatMap_eq_nil_iff.mpr fun t ht => ?_
  cases t with
  | doctype declared => exact absurd (h _ ht) Bool.false_ne_true
  | _ => rfl

/-- A token that is no reference stays in front of what the others are expanded
to. -/
theorem expand_cons {depth : Nat} {t : Token} {rest : List Token}
    (h : t.isPlain = true) :
    expand declared depth (t :: rest)
      = (expand declared depth rest).map (t :: ·) := by
  have other : ∀ name, t ≠ .reference name := by
    rintro name rfl
    cases h
  rw [expand]
  · cases expand declared depth rest with
    | ok tokens => rfl
    | error defect => rfl
  · exact fun name _ => other name
  · exact fun _ name _ => other name

/-- **Plain tokens are not expanded.** -/
theorem expand_of_plain {depth : Nat}
    (h : ∀ t ∈ tokens, t.isPlain = true) :
    expand declared depth tokens = .ok tokens := by
  induction tokens with
  | nil => rw [expand]
  | cons t rest ih =>
    rw [expand_cons (h t List.mem_cons_self),
      ih fun u hu => h u (List.mem_cons_of_mem t hu)]
    rfl

/-- **Characters stand for themselves** in the value of an attribute. -/
@[simp] theorem valueChars_map_char (depth : Nat) (cs : List Char) :
    valueChars declared depth (cs.map .char) = .ok cs := by
  induction cs with
  | nil => rw [List.map_nil, valueChars]
  | cons c cs ih =>
    rw [List.map_cons, valueChars, ih]
    rfl

/-- A start tag with attributes that refer to no entity. -/
def openingOf (name : String) (attributes : List (String × String))
    (closed : Bool) : Token :=
  .opening name.toList
    (attributes.map fun (key, value) => (key.toList, value.toList.map .char))
    closed

/-- The attributes of such a tag have the values that are written. -/
theorem rawTag?_openingOf (name : String)
    (attributes : List (String × String)) (closed : Bool) :
    rawTag? declared (openingOf name attributes closed)
      = .ok (some ⟨name.toList,
          attributes.map fun (key, value) => (key.toList, value)⟩) := by
  have values : (attributes.map fun (key, value) =>
        (key.toList, value.toList.map Piece.char)).mapM
          (fun (key, pieces) => do
            let chars ← valueChars declared declared.length pieces
            Except.ok (key, String.ofList chars))
      = .ok (attributes.map fun (key, value) => (key.toList, value)) := by
    rw [Except.mapM_eq_ok_iff, List.forall₂_map_left_iff,
      List.forall₂_map_right_iff, List.forall₂_same]
    rintro ⟨key, value⟩ -
    dsimp only
    rw [valueChars_map_char, Except.ok_bind, String.ofList_toList]
  unfold rawTag? openingOf
  dsimp only
  rw [values]
  rfl

end Document

/-- The content that plain tokens form: they are put together to nodes, and the
names of these are expanded. -/
def Document.plainContent (tokens : List Token) : Except Defect Content := do
  let frames ← assemble [] tokens
  if frames.inner.isEmpty then resolve [] frames.outer else .error .nesting

open Document in
/-- **A document without entities is read from its tokens**, if they stand where
a document has them and form one element. -/
theorem Element.parse_of_plain {source : String} {body : List Char}
    {tokens : List Token} {content : Content} {root : Element}
    (hbody : Source.body source = .ok body)
    (htokens : Token.ofChars body = .ok tokens)
    (plain : ∀ t ∈ tokens, t.isPlain = true)
    (placed : places 0 false false tokens = .ok ())
    (formed : plainContent tokens = .ok content)
    (only : content.children = [root]) : Element.parse source = .ok root := by
  have whole : Document.content tokens = .ok content := by
    unfold Document.content
    dsimp only
    rw [entities_of_plain plain, placed, Except.ok_bind, expand_of_plain plain,
      Except.ok_bind]
    exact formed
  unfold Element.parse
  rw [hbody, Except.ok_bind, htokens, Except.ok_bind, whole, Except.ok_bind,
    only]

end GeoCatalogue.Xml
