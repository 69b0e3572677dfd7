import GeoCatalogue.Box.Search
import GeoCatalogue.Proofs.XPath.Paths

/-!
# Which boxes a search finds

The elements that are boxes are known in two places: `Box.read` decides
which elements it reads, and `Box.everywhere` is the path that a response
is searched with. They differ in one name. `Box.read` takes GeoRSS boxes of
both namespaces, and the path has only the newer one: boxes of the older
namespace are left out, without a word.

* `Box.isBox_iff` – the elements that `Box.read` supports are those with
  the names of `Box.boxNames`;
* `Box.findAll_everywhere` – a search reads all of these but the older
  GeoRSS boxes, each once and in document order.
-/
namespace GeoCatalogue.Box

open Xml XPath

/-! ## The elements that are boxes -/

/-- The name of a GeoRSS box in the older namespace. -/
def legacyName : QName := ⟨Vocabulary.geoRssLegacy, "box"⟩

/-- **Whether a search for boxes looks at an element**: at all boxes but
the older ones of GeoRSS. -/
def isSought (e : Element) : Bool :=
  isBox e && e.name != legacyName

/-- A reader that fails on the corners of a box does not turn the element
down. -/
theorem lift_ne_unsupported (x : Except Failure Box) (tag : String) :
    Fault.lift x ≠ .error (.unsupportedBox tag) := by
  cases x with
  | ok box => exact nofun
  | error cause => exact nofun

theorem ok_ne_unsupported (box : Box) (tag : String) :
    Except.ok box ≠ .error (Fault.unsupportedBox tag) := nofun

/-- The names with one local name in some namespaces. -/
theorem mem_named {spaces : List String} {localName : String} {name : QName} :
    name ∈ spaces.map (⟨·, localName⟩) ↔
      name.localName = localName ∧ name.namespaceName ∈ spaces := by
  rw [List.mem_map]
  constructor
  · rintro ⟨space, hspace, rfl⟩
    exact ⟨rfl, hspace⟩
  · rintro ⟨rfl, hspace⟩
    exact ⟨_, hspace, rfl⟩

/-- A reader that is only used in some namespaces turns down exactly the
elements of the others. -/
theorem turnsDown_iff {supported : Bool} {x : Except Fault Box} {name : String}
    (h : ∀ tag, x ≠ .error (.unsupportedBox tag)) :
    supported = true ↔ ∀ tag,
      (if supported = true then x else .error (.unsupportedBox name))
        ≠ .error (.unsupportedBox tag) := by
  cases supported with
  | true => exact ⟨fun _ => h, fun _ => rfl⟩
  | false =>
    constructor
    · intro no
      cases no
    · intro no
      exact absurd rfl (no name)

/-- **The elements that are boxes are those that `read` does not turn
down.** -/
theorem isBox_iff (e : Element) :
    isBox e = true ↔ ∀ tag, read e ≠ .error (.unsupportedBox tag) := by
  rw [isBox, List.contains_iff_mem, boxNames, List.mem_append, List.mem_append,
    List.mem_append, mem_named, mem_named, mem_named, mem_named]
  unfold read
  -- each local name is read in its own namespaces
  split
  case h_1 generic =>
    rw [← turnsDown_iff (lift_ne_unsupported _), generic]
    simp
  case h_2 wgs84 =>
    rw [← turnsDown_iff (lift_ne_unsupported _), wgs84]
    simp
  case h_3 geoRss =>
    rw [← turnsDown_iff (ok_ne_unsupported _), geoRss]
    simp
  case h_4 gml =>
    rw [← turnsDown_iff (ok_ne_unsupported _), gml]
    simp
  case h_5 noGeneric noWgs84 noGeoRss noGml =>
    constructor
    · rintro (((⟨name, -⟩ | ⟨name, -⟩) | ⟨name, -⟩) | ⟨name, -⟩)
      · exact (noGeneric name).elim
      · exact (noWgs84 name).elim
      · exact (noGeoRss name).elim
      · exact (noGml name).elim
    · intro no
      exact absurd rfl (no _)

theorem read_legacy {e : Element} (h : e.name = legacyName) :
    read e = .ok (.geoRss e.text) := by
  unfold read
  rw [h]
  rfl

/-! ## The elements that are found -/

/-- The written form of `everywhere`. -/
def everywhereText : String :=
  "//ows:BoundingBox | //ows:WGS84BoundingBox | //ows11:BoundingBox | " ++
    "//ows11:WGS84BoundingBox | //georss:box | //gml:Envelope | " ++
    "//gml31:Envelope"

/-- The expression that `everywhereText` stands for. -/
@[simp] theorem read?_everywhereText :
    Expr.read? everywhereText = some everywhere := by
  decide +kernel

theorem findBy_of_read? {text : String} {expr : Expr}
    (h : Expr.read? text = some expr) (root : Element) :
    findBy root text = findAll root expr := by
  unfold findBy findAll search
  rw [h]
  rfl

/-- The names of boxes without that of the older boxes of GeoRSS, in the
order of `everywhere`. -/
theorem contains_boxNames_and_ne (name : QName) :
    (boxNames.contains name && name != legacyName)
      = (name == ⟨Vocabulary.ows, "BoundingBox"⟩ ||
          name == ⟨Vocabulary.ows, "WGS84BoundingBox"⟩ ||
          name == ⟨Vocabulary.ows11, "BoundingBox"⟩ ||
          name == ⟨Vocabulary.ows11, "WGS84BoundingBox"⟩ ||
          name == ⟨Vocabulary.geoRss, "box"⟩ ||
          name == ⟨Vocabulary.gml, "Envelope"⟩ ||
          name == ⟨Vocabulary.gml31, "Envelope"⟩) := by
  by_cases legacy : name = legacyName
  · rw [legacy]
    decide +kernel
  · have older : (name == ⟨Vocabulary.geoRssLegacy, "box"⟩) = false :=
      beq_false_of_ne legacy
    have newer : (name != legacyName) = true := bne_iff_ne.mpr legacy
    rw [newer, Bool.and_true]
    simp only [boxNames, owsNamespaces, geoRssNamespaces, gmlNamespaces,
      List.map_cons, List.map_nil, List.cons_append, List.nil_append,
      List.contains_cons, List.contains_nil, older]
    ac_rfl

/-- **The nodes that `everywhere` leads to** are the elements with the
names of boxes, without the older ones of GeoRSS. -/
theorem findNodes_everywhere (root : Element) :
    findNodes Vocabulary.standardBindings root everywhere
      = .ok ((Node.ofDocument root).descendants.filter fun n =>
          n.name?.any fun name =>
            boxNames.contains name && name != legacyName) := by
  have anywhere (label namespaceName localName : String)
      (known : Vocabulary.standardBindings.get? (some label)
        = some namespaceName) :
      findNodes Vocabulary.standardBindings root (.anywhere label localName)
        = .ok ((Node.ofDocument root).descendants.filter fun n =>
            n.name?.any (· == ⟨namespaceName, localName⟩)) :=
    findNodes_anywhere known localName
  rw [funext contains_boxNames_and_ne]
  exact findNodes_union_named (findNodes_union_named
    (findNodes_union_named (findNodes_union_named (findNodes_union_named
      (findNodes_union_named
        (anywhere "ows" Vocabulary.ows "BoundingBox" rfl)
        (anywhere "ows" Vocabulary.ows "WGS84BoundingBox" rfl))
      (anywhere "ows11" Vocabulary.ows11 "BoundingBox" rfl))
      (anywhere "ows11" Vocabulary.ows11 "WGS84BoundingBox" rfl))
      (anywhere "georss" Vocabulary.geoRss "box" rfl))
      (anywhere "gml" Vocabulary.gml "Envelope" rfl))
      (anywhere "gml31" Vocabulary.gml31 "Envelope" rfl)

/-- **What a search for boxes gives**: what is read from all boxes but the
older ones of GeoRSS, each once and in document order. -/
theorem findAll_everywhere (root : Element) :
    findAll root everywhere
      = (root.withDescendants.filter isSought).mapM read := by
  unfold findAll
  rw [searchFor_of_findNodes (findNodes_everywhere root),
    Node.filterMap_selected?_descendants, Except.ok_bind]
  rw [List.mapM_map]
  rfl

/-! ## Completeness -/

/-- The elements that a search looks at, among the boxes. -/
theorem filter_isSought (es : List Element) :
    es.filter isSought
      = (es.filter isBox).filter fun e => e.name != legacyName := by
  rw [List.filter_filter]
  congr
  funext e
  exact Bool.and_comm _ _

/-- **A search is complete** – it gives what is read from all boxes of a
document, in document order, or fails as reading them does – exactly if the
document has no older box of GeoRSS, or has a box that cannot be read. In
all cases it is the older boxes of GeoRSS that are left out, and no
others. -/
theorem search_complete_iff (root : Element) :
    (∀ e, isBox e = true ↔ ∀ tag, read e ≠ .error (.unsupportedBox tag)) ∧
    findBy root everywhereText = findAll root everywhere ∧
    findAll root everywhere
      = (root.withDescendants.filter isSought).mapM read ∧
    (findAll root everywhere
        = (root.withDescendants.filter isBox).mapM read ↔
      (∀ e ∈ root.withDescendants, e.name ≠ legacyName) ∨
      ∃ e ∈ root.withDescendants, isBox e = true ∧
        ∃ fault, read e = .error fault) := by
  refine ⟨isBox_iff, findBy_of_read? read?_everywhereText root,
    findAll_everywhere root, ?_⟩
  have harmless : ∀ e ∈ root.withDescendants.filter isBox,
      (e.name != legacyName) = false → ∃ box, read e = .ok box := by
    intro e _ legacy
    exact ⟨_, read_legacy (by simpa using legacy)⟩
  rw [findAll_everywhere, filter_isSought,
    Except.mapM_filter_eq_iff harmless]
  -- an element with the older name is a box, as it can be read
  refine or_congr ?_ ?_
  · constructor
    · intro others e he legacy
      have box : isBox e = true := (isBox_iff e).mpr fun tag => by
        rw [read_legacy legacy]
        exact ok_ne_unsupported _ tag
      exact bne_iff_ne.mp (others e (List.mem_filter.mpr ⟨he, box⟩)) legacy
    · intro others e he
      exact bne_iff_ne.mpr (others e (List.mem_filter.mp he).1)
  · simp only [List.mem_filter, and_assoc]

/-- A feed with one entry, an older box of GeoRSS. -/
def legacyFeed : Element :=
  ⟨⟨⟨Vocabulary.atom, "feed"⟩, [], [(none, Vocabulary.atom)]⟩,
    .element ⟨legacyName, [], [(none, Vocabulary.geoRssLegacy)]⟩
      (.text "1 2 3 4" .nothing) .nothing⟩

/-- **A box that can be read and is not found.** -/
theorem findAll_legacyFeed :
    (legacyFeed.withDescendants.filter isBox).mapM read
      = .ok [.geoRss "1 2 3 4"] ∧
    findAll legacyFeed everywhere = .ok [] := by
  constructor
  · rfl
  · rw [findAll_everywhere]
    rfl

end GeoCatalogue.Box
