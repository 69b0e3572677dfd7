import GeoCatalogue.Proofs.Outcome
import GeoCatalogue.Template.Segments

/-!
# Weaving texts into a cut template

Filling the placeholders of a template is done in one pass: each token is
looked up, and its text is put between the literals at once. Here the pass
is taken apart. The tokens are looked up in order – that is all that can
fail – and the texts found are then **woven** between the literals, which
looks at neither of them. So what is woven starts with the first literal,
and a property that is kept when texts are put one after the other holds of
the whole if it holds of all literals and texts (`weave_induction`).
-/
namespace GeoCatalogue.Segments

variable {ε : Type}

/-- **The text of a cut with texts in the places of its placeholders**, in
order. -/
def weave : Segments → List String → List Char
  | done literal, _ => literal
  | placeholder literal _ rest, [] => literal ++ rest.weave []
  | placeholder literal _ rest, text :: texts =>
    literal ++ text.toList ++ rest.weave texts

/-- **Filling is looking up and weaving.** -/
theorem fill_eq_weave (value : String → Except ε String) (s : Segments) :
    s.fill value = s.weave <$> s.tokens.mapM value := by
  induction s with
  | done literal => rfl
  | placeholder literal token rest ih =>
    rw [fill, tokens, List.mapM_cons, ih]
    cases value (String.ofList token) with
    | error e => rfl
    | ok text =>
      cases rest.tokens.mapM value with
      | error e => rfl
      | ok texts => rfl

/-- A cut whose tokens are looked up to some texts is filled with them. -/
theorem fill_of_mapM {value : String → Except ε String} {s : Segments}
    {texts : List String} (h : s.tokens.mapM value = .ok texts) :
    s.fill value = .ok (s.weave texts) := by
  rw [fill_eq_weave, h]
  rfl

/-! ## Literals -/

/-- **The front of a cut**: the literal in front of all placeholders. -/
def head : Segments → List Char
  | done literal => literal
  | placeholder literal _ _ => literal

/-- **The literals of a cut**, in order. -/
def literals : Segments → List (List Char)
  | done literal => [literal]
  | placeholder literal _ rest => literal :: rest.literals

/-- Whatever is woven into a cut, its front comes first. -/
theorem exists_weave_eq_head_append (s : Segments) (texts : List String) :
    ∃ tail, s.weave texts = s.head ++ tail := by
  cases s with
  | done literal => exact ⟨[], (List.append_nil literal).symm⟩
  | placeholder literal token rest =>
    cases texts with
    | nil => exact ⟨rest.weave [], rfl⟩
    | cons text texts =>
      exact ⟨text.toList ++ rest.weave texts, List.append_assoc _ _ _⟩

/-- **What holds of all literals and texts holds of what is woven from
them**, if it holds of two such texts one after the other. -/
theorem weave_induction {p : List Char → Prop}
    (append : ∀ {cs ds}, p cs → p ds → p (cs ++ ds)) {s : Segments}
    {texts : List String} (hs : ∀ literal ∈ s.literals, p literal)
    (htexts : ∀ text ∈ texts, p text.toList) : p (s.weave texts) := by
  induction s generalizing texts with
  | done literal => exact hs literal List.mem_cons_self
  | placeholder literal token rest ih =>
    have first := hs literal List.mem_cons_self
    have later {ts : List String} (hts : ∀ text ∈ ts, p text.toList) :
        p (rest.weave ts) :=
      ih (fun other h => hs other (List.mem_cons_of_mem literal h)) hts
    cases texts with
    | nil => exact append first (later nofun)
    | cons text texts =>
      refine append (append first (htexts text List.mem_cons_self)) (later ?_)
      exact fun other h => htexts other (List.mem_cons_of_mem text h)

end GeoCatalogue.Segments
