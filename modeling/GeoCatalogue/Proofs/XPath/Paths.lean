import GeoCatalogue.Proofs.Outcome
import GeoCatalogue.Proofs.XPath.Levels
import Mathlib.Data.List.Flatten
import Mathlib.Data.List.Perm.Basic

/-!
# What paths lead to

The paths that this library searches documents with are of two kinds: to
all elements of a name, and to the first child of a name of each of some
nodes. This module computes both, as well as their unions, from the nodes
below the document: `findNodes_anywhere`, `findNodes_first` and
`findNodes_union`. Where two paths to first children are united, every child
is found once (`exists_findNodes_firsts`).
-/
namespace GeoCatalogue.XPath

open Xml

variable {bindings : Bindings} {root : Element}

/-- **The nodes that an expression leads to** from the document element, in
document order. -/
def findNodes (bindings : Bindings) (root : Element) (expr : Expr) :
    Except Defect (List Node) :=
  select bindings root expr >>= Value.needNodes

/-- The value of an expression that leads to nodes is groups of nodes. -/
theorem exists_groups {expr : Expr} {nodes : List Node}
    (h : findNodes bindings root expr = .ok nodes) :
    ∃ groups, select bindings root expr = .ok (.nodes groups) ∧
      inOrder groups.flatten = nodes := by
  obtain ⟨value, hvalue, hnodes⟩ := Except.bind_eq_ok.mp h
  cases value with
  | nodes groups => exact ⟨groups, hvalue, Except.ok.inj hnodes⟩
  | number value => cases hnodes
  | text value => cases hnodes
  | truth value => cases hnodes

/-- What a search finds when its expression leads to nodes. -/
theorem searchFor_of_findNodes {expr : Expr} {nodes : List Node}
    (h : findNodes bindings root expr = .ok nodes) :
    searchFor bindings root expr = .ok (nodes.filterMap Node.selected?) := by
  obtain ⟨groups, hvalue, rfl⟩ := exists_groups h
  unfold searchFor
  rw [hvalue]
  rfl

/-! ## Steps -/

/-- A step from nodes gives one group for each of them. -/
theorem select_step {path : Expr} {axis : Axis} {test : NodeTest}
    {starts : List Node} {passes : Node → Bool}
    (hpath : findNodes bindings root path = .ok starts)
    (htest : test.passes bindings = .ok passes) :
    select bindings root (.step path axis test)
      = .ok (.nodes (starts.map fun m => (axis.nodes m).filter passes)) := by
  obtain ⟨value, hvalue, hnodes⟩ := Except.bind_eq_ok.mp hpath
  unfold select at hvalue ⊢
  rw [Expr.evaluate, hvalue, Except.ok_bind, hnodes, Except.ok_bind, htest]
  rfl

/-- A condition is tested in each group on its own. -/
theorem select_condition {path predicate : Expr}
    {groups kept : List (List Node)}
    (hpath : select bindings root path = .ok (.nodes groups))
    (hkept : groups.mapM (keepNodes
      (predicate.evaluate bindings (.ofDocument root)) 1) = .ok kept) :
    select bindings root (.condition path predicate) = .ok (.nodes kept) := by
  unfold select at hpath ⊢
  rw [Expr.evaluate, hpath, Except.ok_bind, Value.needGroups, Except.ok_bind,
    hkept, Except.ok_bind]

/-- The test of a name under a label whose namespace is known. -/
theorem passes_named {label namespaceName : String}
    (known : bindings.get? (some label) = some namespaceName)
    (localName : String) :
    (NodeTest.named (some label) localName).passes bindings
      = .ok fun n => n.name?.any (· == ⟨namespaceName, localName⟩) := by
  have test : (fun n : Node => n.name? == some ⟨namespaceName, localName⟩)
      = fun n => n.name?.any (· == ⟨namespaceName, localName⟩) := by
    funext n
    cases n.name? with
    | none => rfl
    | some name => rfl
  rw [NodeTest.passes, namespaceOf, known, ← test]
  rfl

/-- All nodes of the document: the document itself and those below it. -/
theorem findNodes_all :
    findNodes bindings root (.step .document .descendantOrSelf .node)
      = .ok (.ofDocument root :: (Node.ofDocument root).descendants) := by
  have start : findNodes bindings root .document
      = .ok [.ofDocument root] := by
    show Except.ok (inOrder [Node.ofDocument root]) = _
    rw [inOrder_of_ascending (List.pairwise_singleton _ _)]
  rw [findNodes, select_step start rfl]
  show Except.ok (inOrder (((Node.ofDocument root ::
    (Node.ofDocument root).descendants).filter fun _ => true) ++ [])) = _
  rw [List.append_nil, List.filter_true,
    inOrder_of_ascending (Node.ascending_withDocument root)]

/-! ## Elements of a name, anywhere -/

/-- **A path to a name leads to all elements of that name**, in document
order. -/
theorem findNodes_anywhere {label namespaceName : String}
    (known : bindings.get? (some label) = some namespaceName)
    (localName : String) :
    findNodes bindings root (.anywhere label localName)
      = .ok ((Node.ofDocument root).descendants.filter fun n =>
          n.name?.any (· == ⟨namespaceName, localName⟩)) := by
  rw [findNodes, Expr.anywhere,
    select_step findNodes_all (passes_named known localName), Except.ok_bind]
  refine congrArg Except.ok (inOrder_eq_of_mem_iff
    ((Node.ascending_descendants root).sublist List.filter_sublist) ?_)
  intro n
  -- a node below the document is a child of the document or of a node
  -- below it, so it is in one of the groups
  rw [← List.flatMap_def, List.mem_filter,
    ← (Node.children_perm root).mem_iff, List.mem_flatMap, List.mem_flatMap]
  constructor
  · rintro ⟨m, hm, hn⟩
    obtain ⟨hchild, hname⟩ := List.mem_filter.mp hn
    exact ⟨⟨m, hm, hchild⟩, hname⟩
  · rintro ⟨⟨m, hm, hchild⟩, hname⟩
    exact ⟨m, hm, List.mem_filter.mpr ⟨hchild, hname⟩⟩

/-! ## The first child of a name -/

/-- The condition that is the number one keeps the first node of a
group. -/
@[simp] theorem keepNodes_one (group : List Node) :
    keepNodes (fun _ => .ok (.number 1)) 1 group
      = .ok group.head?.toList := by
  -- positions are counted from one, so no later node is kept
  have later (position : Nat) (hpos : 1 < position) (rest : List Node) :
      keepNodes (fun _ => .ok (.number 1)) position rest = .ok [] := by
    induction rest generalizing position with
    | nil => rfl
    | cons node rest ih =>
      have unequal : keeps position (.number 1) = false := by
        unfold keeps
        rw [beq_eq_false_iff_ne]
        intro h
        exact Nat.ne_of_lt hpos (by exact_mod_cast h)
      rw [keepNodes, Except.ok_bind, ih (position + 1) (by omega), unequal]
      rfl
  cases group with
  | nil => rfl
  | cons node rest =>
    rw [keepNodes, Except.ok_bind, later 2 (by omega)]
    rfl

/-- The first child of a name, if there is one. -/
def firstNamed (name : QName) (m : Node) : List Node :=
  (m.children.find? fun n => n.name?.any (· == name)).toList

/-- **A path to the first child of a name** leads to that child of each of
the nodes it starts from. -/
theorem findNodes_first {path : Expr} {starts : List Node}
    {label namespaceName : String}
    (hpath : findNodes bindings root path = .ok starts)
    (known : bindings.get? (some label) = some namespaceName)
    (localName : String) :
    findNodes bindings root (path.inside label localName).first
      = .ok (inOrder
          (starts.flatMap (firstNamed ⟨namespaceName, localName⟩))) := by
  have groups : select bindings root (path.inside label localName)
      = .ok (.nodes (starts.map fun m => m.children.filter fun n =>
          n.name?.any (· == ⟨namespaceName, localName⟩))) :=
    select_step hpath (passes_named known localName)
  have kept : (starts.map fun m => m.children.filter fun n =>
        n.name?.any (· == ⟨namespaceName, localName⟩)).mapM
          (keepNodes ((Expr.number 1).evaluate bindings (.ofDocument root)) 1)
      = .ok (starts.map (firstNamed ⟨namespaceName, localName⟩)) := by
    rw [Except.mapM_eq_ok_iff, List.forall₂_map_left_iff,
      List.forall₂_map_right_iff, List.forall₂_same]
    intro m _
    rw [firstNamed, ← List.head?_filter]
    exact keepNodes_one _
  rw [findNodes, Expr.first, select_condition groups kept, Except.ok_bind]
  rfl

theorem firstNamed_sublist (name : QName) (m : Node) :
    (firstNamed name m).Sublist m.children := by
  rw [firstNamed, ← List.head?_filter, ← List.take_one]
  exact (List.take_sublist 1 _).trans List.filter_sublist

/-- The first child of a name has that name. -/
theorem name?_of_mem_firstNamed {name : QName} {m n : Node}
    (h : n ∈ firstNamed name m) : n.name? = some name := by
  have found := List.find?_some (Option.mem_toList.mp h)
  cases hname : n.name? with
  | none =>
    rw [hname] at found
    cases found
  | some name' =>
    rw [hname] at found
    rw [beq_iff_eq.mp found]

/-- **First children of nodes below the document** are nodes below the
document, and none of them is found twice. -/
theorem firstNamed_nodup_and_subset {starts : List Node}
    (hstarts : starts.Sublist (Node.ofDocument root).descendants)
    (name : QName) :
    (starts.flatMap (firstNamed name)).Nodup ∧
      starts.flatMap (firstNamed name) ⊆ (Node.ofDocument root).descendants := by
  -- no node is a child of two nodes
  have once := (Node.children_perm root).nodup_iff.mpr
    (Node.ascending_descendants root).nodup
  have part : (starts.flatMap (firstNamed name)).Sublist
      ((Node.ofDocument root :: (Node.ofDocument root).descendants).flatMap
        Node.children) :=
    (List.Sublist.flatMap_right starts
      fun m _ => firstNamed_sublist name m).trans
        ((hstarts.cons _).flatMap _)
  exact ⟨part.nodup once,
    fun n hn => (Node.children_perm root).mem_iff.mp (part.subset hn)⟩

/-! ## Unions -/

/-- **A union leads to the nodes of both of its sides**, in document
order. -/
theorem findNodes_union {left right : Expr} {ls rs : List Node}
    (hleft : findNodes bindings root left = .ok ls)
    (hright : findNodes bindings root right = .ok rs) :
    findNodes bindings root (.union left right) = .ok (inOrder (ls ++ rs)) := by
  obtain ⟨v, hv, hls⟩ := Except.bind_eq_ok.mp hleft
  obtain ⟨w, hw, hrs⟩ := Except.bind_eq_ok.mp hright
  unfold select at hv hw
  rw [findNodes, select, Expr.evaluate, hv, Except.ok_bind, hls,
    Except.ok_bind, hw, Except.ok_bind, hrs]
  show Except.ok (inOrder ((ls ++ rs) ++ [])) = _
  rw [List.append_nil]

/-- The union of the nodes with some names and those with others. -/
theorem findNodes_union_named {left right : Expr} {P Q : QName → Bool}
    (hleft : findNodes bindings root left
      = .ok ((Node.ofDocument root).descendants.filter fun n =>
          n.name?.any P))
    (hright : findNodes bindings root right
      = .ok ((Node.ofDocument root).descendants.filter fun n =>
          n.name?.any Q)) :
    findNodes bindings root (.union left right)
      = .ok ((Node.ofDocument root).descendants.filter fun n =>
          n.name?.any fun name => P name || Q name) := by
  rw [findNodes_union hleft hright]
  refine congrArg Except.ok (inOrder_eq_of_mem_iff
    ((Node.ascending_descendants root).sublist List.filter_sublist) ?_)
  intro n
  rw [List.mem_append, List.mem_filter, List.mem_filter, List.mem_filter,
    ← and_or_left]
  cases n.name? with
  | none => simp
  | some name => simp

/-- **The union of two paths to first children** leads to the first children of both names of
each of the nodes it starts from, each once. The nodes come in document order, whichever path
they were found on, and so only an arrangement of them can be told from the starts. -/
theorem exists_findNodes_firsts {path : Expr} {starts : List Node}
    {label namespaceName leftName rightName : String}
    (hpath : findNodes bindings root path = .ok starts)
    (hstarts : starts.Sublist (Node.ofDocument root).descendants)
    (known : bindings.get? (some label) = some namespaceName)
    (different : leftName ≠ rightName) :
    ∃ nodes, findNodes bindings root (.union
        (path.inside label leftName).first
        (path.inside label rightName).first) = .ok nodes ∧
      nodes.Perm (starts.flatMap fun m =>
        firstNamed ⟨namespaceName, leftName⟩ m ++
          firstNamed ⟨namespaceName, rightName⟩ m) := by
  refine ⟨_, findNodes_union (findNodes_first hpath known leftName)
    (findNodes_first hpath known rightName), ?_⟩
  obtain ⟨leftOnce, leftBelow⟩ :=
    firstNamed_nodup_and_subset hstarts ⟨namespaceName, leftName⟩
  obtain ⟨rightOnce, rightBelow⟩ :=
    firstNamed_nodup_and_subset hstarts ⟨namespaceName, rightName⟩
  have ascending := Node.ascending_descendants root
  have perm := (inOrder_perm ascending leftBelow leftOnce).append
    (inOrder_perm ascending rightBelow rightOnce)
  have once : (starts.flatMap (firstNamed ⟨namespaceName, leftName⟩) ++
      starts.flatMap (firstNamed ⟨namespaceName, rightName⟩)).Nodup := by
    refine List.nodup_append.mpr ⟨leftOnce, rightOnce, ?_⟩
    -- no node has both names
    rintro n hn _ hn' rfl
    obtain ⟨m, -, hm⟩ := List.mem_flatMap.mp hn
    obtain ⟨m', -, hm'⟩ := List.mem_flatMap.mp hn'
    have same := (name?_of_mem_firstNamed hm).symm.trans
      (name?_of_mem_firstNamed hm')
    exact different (QName.mk.inj (Option.some.inj same)).2
  refine ((inOrder_perm ascending ?_ (perm.nodup_iff.mpr once)).trans
    perm).trans (List.flatMap_append_perm _ _ _)
  intro n hn
  rcases List.mem_append.mp (perm.mem_iff.mp hn) with hn | hn
  · exact leftBelow hn
  · exact rightBelow hn

end GeoCatalogue.XPath
