/-!
# Tables and namespace bindings

Values of parameters, settings and namespaces are written down as a list
of keys and values in which **the last entry of a key counts**.

* `Table.get?` – the value of a key;
* `Table.settled` – the entries that count, in the order in which their
  keys first occur;
* `Bindings` – the namespaces that labels stand for; the label may be
  absent, which is the entry for names without a label.
-/
namespace GeoCatalogue

/-- **Keys with values**; the last entry of a key counts. -/
abbrev Table (κ α : Type) := List (κ × α)

namespace Table

variable {κ α : Type} [BEq κ]

/-- **The value of a key**, from its last entry. -/
def get? (t : Table κ α) (key : κ) : Option α :=
  List.lookup key t.reverse

/-- Whether a key has a value. -/
def has (t : Table κ α) (key : κ) : Bool :=
  (t.get? key).isSome

/-- The keys in the order of their first entries, each once. -/
def keys (t : Table κ α) : List κ :=
  (t.map Prod.fst).eraseDups

/-- **The entries that count**, in the order in which their keys first
occur. -/
def settled (t : Table κ α) : Table κ α :=
  t.keys.filterMap fun key => (t.get? key).map (key, ·)

end Table

/-- **Namespace bindings**: labels and the namespaces they stand for. -/
abbrev Bindings := Table (Option String) String

/-- **The namespace of a label**; a label that is bound to the empty
text stands for no namespace. -/
def Bindings.namespaceOf? (bindings : Bindings) (label : String) :
    Option String :=
  (bindings.get? (some label)).filter (· ≠ "")

end GeoCatalogue
