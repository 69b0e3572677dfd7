import GeoCatalogue.Box.Search
import GeoCatalogue.Proofs.XPath.Paths

/-!
# The boxes that count

The boxes that make up the extent of a dataset are looked for with
`Box.ofRecords`. That path leads to the first bounding box with a reference
of every record *and* to its first bounding box of WGS 84, so a record with
boxes of both kinds counts twice. Apart from that, every box that counts is
found once (`exists_found`).
-/
namespace GeoCatalogue.Dataset

open Xml XPath

/-! ## Records and their boxes -/

/-- The name of a record. -/
def recordName : QName := ⟨Vocabulary.csw, "Record"⟩

/-- The name of a bounding box with a reference. -/
def genericName : QName := ⟨Vocabulary.ows, "BoundingBox"⟩

/-- The name of a bounding box of WGS 84. -/
def wgs84Name : QName := ⟨Vocabulary.ows, "WGS84BoundingBox"⟩

/-- **The records of a document**, wherever they are. -/
def records (root : Element) : List Element :=
  root.withDescendants.filter (·.name == recordName)

/-- **The first box of a record**, of either kind. -/
def firstBox? (r : Element) : Option Element :=
  r.inside.children.find? fun c => c.name == genericName || c.name == wgs84Name

/-- **The boxes of a record that count**: the first of each kind. -/
def countedBoxes (r : Element) : List Element :=
  (r.childNamed? genericName).toList ++ (r.childNamed? wgs84Name).toList

/-- The first box counts. -/
theorem mem_countedBoxes_of_firstBox? {r e : Element}
    (h : firstBox? r = some e) : e ∈ countedBoxes r := by
  obtain ⟨named, before, after, hsplit, others⟩ :=
    List.find?_eq_some_iff_append.mp h
  have unnamed : ∀ c ∈ before, (c.name == genericName) = false ∧
      (c.name == wgs84Name) = false := by
    intro c hc
    simpa using others c hc
  have first (name : QName) (hname : (e.name == name) = true)
      (hbefore : ∀ c ∈ before, (c.name == name) = false) :
      r.childNamed? name = some e := by
    refine List.find?_eq_some_iff_append.mpr
      ⟨hname, before, after, hsplit, fun c hc => ?_⟩
    rw [hbefore c hc]
    rfl
  refine List.mem_append.mpr ?_
  rcases Bool.or_eq_true_iff.mp named with generic | wgs84
  · rw [first genericName generic fun c hc => (unnamed c hc).1]
    exact .inl List.mem_cons_self
  · rw [first wgs84Name wgs84 fun c hc => (unnamed c hc).2]
    exact .inr List.mem_cons_self

/-- A record without a first box has no box that counts. -/
theorem countedBoxes_eq_nil_iff {r : Element} :
    countedBoxes r = [] ↔ firstBox? r = none := by
  constructor
  · intro h
    cases hfirst : firstBox? r with
    | none => rfl
    | some e =>
      have := mem_countedBoxes_of_firstBox? hfirst
      rw [h] at this
      cases this
  · intro h
    have none := List.find?_eq_none.mp h
    have absent (name : QName) (hname : name = genericName ∨ name = wgs84Name) :
        r.childNamed? name = .none := by
      refine List.find?_eq_none.mpr fun c hc same => none c hc ?_
      rw [beq_iff_eq.mp same]
      rcases hname with rfl | rfl
      · rfl
      · exact Bool.or_true _
    rw [countedBoxes, absent _ (.inl rfl), absent _ (.inr rfl)]
    rfl

/-- No box counts exactly if no record has a first one. -/
theorem countedBoxes_eq_nil_iff_records {root : Element} :
    (records root).flatMap countedBoxes = [] ↔
      ∀ r ∈ records root, firstBox? r = none := by
  rw [List.flatMap_eq_nil_iff]
  simp only [countedBoxes_eq_nil_iff]

/-- What is found at the first children of a name of an element. -/
theorem filterMap_firstNamed (name : QName) (place : Nat) (e : Element) :
    (firstNamed name ⟨place, .element e⟩).filterMap Node.selected?
      = (e.childNamed? name).toList.map Selected.element := by
  have once (o : Option Node) : o.toList.filterMap Node.selected?
      = (o.bind Node.selected?).toList := by
    cases o with
    | none => rfl
    | some n =>
      show [n].filterMap Node.selected? = (Node.selected? n).toList
      cases h : Node.selected? n with
      | none => exact List.filterMap_cons_none h
      | some found => exact List.filterMap_cons_some h
  rw [firstNamed, once, Node.selected?_find?_children, Option.toList_map]
  rfl

/-- **What a search for the boxes of records finds**: the boxes that count, each once. The
expression is a union of two paths, each to the first box of a kind in a record. A union is
in document order and has no node twice, so what is found is an arrangement of what the
records hold, one after the other. -/
theorem exists_found (root : Element) :
    ∃ found : List Element,
      searchFor Vocabulary.standardBindings root Box.ofRecords
        = .ok (found.map Selected.element) ∧
      found.Perm ((records root).flatMap countedBoxes) := by
  have hrecords : findNodes Vocabulary.standardBindings root
        (.anywhere "csw" "Record")
      = .ok ((Node.ofDocument root).descendants.filter fun n =>
          n.name?.any (· == recordName)) :=
    findNodes_anywhere rfl "Record"
  have union : ∃ nodes,
      findNodes Vocabulary.standardBindings root Box.ofRecords = .ok nodes ∧
      nodes.Perm (((Node.ofDocument root).descendants.filter fun n =>
        n.name?.any (· == recordName)).flatMap fun m =>
          firstNamed genericName m ++ firstNamed wgs84Name m) :=
    exists_findNodes_firsts hrecords List.filter_sublist rfl (by decide)
  obtain ⟨nodes, hnodes, hperm⟩ := union
  -- from the nodes to the elements at them
  have selected := hperm.filterMap Node.selected?
  have elements : (((Node.ofDocument root).descendants.filter fun n =>
        n.name?.any (· == recordName)).flatMap fun m =>
          firstNamed genericName m ++ firstNamed wgs84Name m).filterMap
            Node.selected?
      = ((records root).flatMap countedBoxes).map Selected.element := by
    rw [List.filterMap_flatMap, List.map_flatMap]
    refine Node.flatMap_descendants (· == recordName) (fun place e => ?_) root
    rw [List.filterMap_append, filterMap_firstNamed, filterMap_firstNamed,
      countedBoxes, List.map_append]
  rw [elements] at selected
  obtain ⟨found, hmap, hfound⟩ := Eq.mpr (congrFun (congrFun
    (List.eq_map_comp_perm Selected.element) _) _) selected
  refine ⟨found, ?_, hfound⟩
  rw [searchFor_of_findNodes hnodes, hmap]

end GeoCatalogue.Dataset
