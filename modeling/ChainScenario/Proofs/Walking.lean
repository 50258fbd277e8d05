import ChainScenario.Proofs.Gathering
import ChainScenario.Run.Suite
import Mathlib.Data.List.Nodup
import Mathlib.Tactic.MkIffOfInductiveProp

/-!
# Walking a directory

Main statements: `Run.Suite.nodup_paths`, a suite comes upon no file twice, and `Run.Suite.mem_paths`, it
comes upon exactly the files below its directory whose names end as asked.
-/
namespace ChainScenario

/-- A map of items with different names binds them all. -/
theorem OrdMap.mem_toList_named {ι α β : Type} [Ord α] [Std.TransOrd α] [Std.LawfulEqOrd α]
    [DecidableEq α] {name : ι → α} {content : ι → β} {items : List ι}
    (single : (items.map name).Nodup) {bound : α × β} :
    bound ∈ (ofList (items.map fun item => (name item, content item))).toList ↔
      ∃ item ∈ items, name item = bound.1 ∧ content item = bound.2 := by
  have binds : (ofList (items.map fun item => (name item, content item))).get? bound.1 = some bound.2 ↔
      ∃ item ∈ decisive name items, name item = bound.1 ∧ content item = bound.2 := get?_named
  rw [decisive_of_nodup single] at binds
  rw [← binds]
  exact ⟨get?_of_mem, mem_of_get?⟩

/-! ## Well named trees -/

namespace Files

/-- Whether an entry of a directory can have this name. -/
@[mk_iff]
structure IsName (name : String) : Prop where
  nonempty : name.toList ≠ []
  noSlash : '/' ∉ name.toList

/-- Every directory gives its entries names, and no two the same one. -/
inductive Node.WellNamed : Node → Prop
  | file (contents : Bytes) : WellNamed (.file contents)
  | directory {entries : List (String × Node)} (names : ∀ entry ∈ entries, IsName entry.1)
      (single : (entries.map Prod.fst).Nodup) (nodes : ∀ entry ∈ entries, WellNamed entry.2) :
      WellNamed (.directory entries)

/-- What lies at the end of a list of names. -/
def Node.below? : Node → List String → Option Node
  | node, [] => some node
  | .file _, _ :: _ => none
  | .directory entries, name :: names => do (← childNamed? name entries).below? names

theorem Node.mem_of_childNamed? {name : String} {entries : List (String × Node)} {node : Node}
    (found : childNamed? name entries = some node) : (name, node) ∈ entries := by
  induction entries with
  | nil => cases found
  | cons entry rest ih =>
    rw [childNamed?] at found
    split at found
    · rename_i same
      cases found
      exact same ▸ List.mem_cons_self
    · exact List.mem_cons_of_mem _ (ih found)

theorem Node.childNamed?_of_mem {entries : List (String × Node)}
    (single : (entries.map Prod.fst).Nodup) {entry : String × Node} (member : entry ∈ entries) :
    childNamed? entry.1 entries = some entry.2 := by
  induction entries with
  | nil => cases member
  | cons first rest ih =>
    rw [List.map_cons, List.nodup_cons] at single
    rw [childNamed?]
    rcases List.mem_cons.1 member with rfl | behind
    · exact if_pos rfl
    · have apart : first.1 ≠ entry.1 := fun same =>
        single.1 (same ▸ List.mem_map_of_mem behind)
      rw [if_neg apart]
      exact ih single.2 behind

/-- Following a path in a well named tree leads to a well named tree. -/
theorem wellNamed_follow {ancestors : List Node} {node found : Node} {segments : List (List Char)}
    (above : ∀ ancestor ∈ ancestors, ancestor.WellNamed) (named : node.WellNamed)
    (follows : follow ancestors node segments = .ok found) : found.WellNamed := by
  fun_induction follow ancestors node segments with
  | case1 => exact Except.ok.inj follows ▸ named
  | case2 => cases follows
  | case3 _ _ _ _ _ ih => exact ih above named follows
  | case4 _ _ _ _ _ ih => exact ih above named follows
  | case5 _ _ _ _ _ ancestor ancestors ih =>
    exact ih (fun other member => above other (List.mem_cons_of_mem _ member))
      (above ancestor List.mem_cons_self) follows
  | case6 => cases follows
  | case7 ancestors entries segment segments _ _ _ node found ih =>
    refine ih (List.forall_mem_cons.2 ⟨named, above⟩) ?_ follows
    cases named with
    | directory _ _ nodes => exact nodes _ (Node.mem_of_childNamed? found)
  | case8 => cases follows

theorem Tree.wellNamed_node {tree : Tree} (named : tree.root.WellNamed) {path : String} {node : Node}
    (leads : tree.node path = .ok node) : node.WellNamed := by
  rw [Tree.node] at leads
  split at leads
  · cases leads
  split at leads
  · cases leads
  split at leads
  · cases leads
  exact wellNamed_follow (by simp) named leads

end Files

/-! ## Paths of entries -/

namespace Path

open Files (IsName)

theorem toList_join (path : String) {name : String} (isName : IsName name) :
    (join path name).toList = (join path "").toList ++ name.toList := by
  have relative : isAbsolute name = false := by
    rw [isAbsolute, beq_eq_false_iff_ne]
    exact fun first => isName.noSlash (List.mem_of_head? first)
  have relative' : isAbsolute "" = false := rfl
  rw [join, join, relative, relative', Bool.false_or]
  split
  · simp
  · split <;> simp

theorem getLast?_join (path : String) {name : String} (isName : IsName name) :
    ∃ last, (join path name).toList.getLast? = some last ∧ last ≠ '/' := by
  refine ⟨name.toList.getLast isName.nonempty, ?_, ?_⟩
  · rw [toList_join path isName, List.getLast?_append_of_ne_nil _ isName.nonempty,
      List.getLast?_eq_some_getLast]
  · intro slash
    exact isName.noSlash (slash ▸ List.getLast_mem isName.nonempty)

/-- Names behind a path that ends in a name. -/
theorem toList_foldl_join {path : String} {names : List String}
    (ends : ∃ last, path.toList.getLast? = some last ∧ last ≠ '/')
    (each : ∀ name ∈ names, IsName name) :
    (names.foldl join path).toList = path.toList ++ names.flatMap fun name => '/' :: name.toList := by
  induction names generalizing path with
  | nil => simp
  | cons name names ih =>
    have isName := each name List.mem_cons_self
    -- No slash ends the path, so one is put before the name.
    have slash : (join path "").toList = path.toList ++ ['/'] := by
      obtain ⟨last, found, apart⟩ := ends
      have filled : path.isEmpty = false := by
        rw [String.isEmpty_eq_false_iff]
        rintro rfl
        cases found
      have open' : (path.toList.getLast? == some '/') = false := by
        rw [found, beq_eq_false_iff_ne]
        exact fun same => apart (Option.some.inj same)
      rw [join, show isAbsolute "" = false from rfl, filled, open']
      simp
    rw [List.foldl_cons, ih (getLast?_join path isName) fun other member =>
      each other (List.mem_cons_of_mem _ member), toList_join path isName, slash]
    simp

/-- The names below a directory can be told by their paths. -/
theorem first_eq {path name other : String} {names others : List String}
    (each : ∀ entry ∈ name :: names, IsName entry) (each' : ∀ entry ∈ other :: others, IsName entry)
    (same : names.foldl join (join path name) = others.foldl join (join path other)) :
    name = other := by
  -- Up to the next slash there is only the first name.
  have told : ∀ {first : String} {rest : List String}, (∀ entry ∈ first :: rest, IsName entry) →
      ((rest.foldl join (join path first)).toList.drop (join path "").toList.length).takeWhile
        (· != '/') = first.toList := by
    intro first rest each
    have isName := each first List.mem_cons_self
    rw [toList_foldl_join (getLast?_join path isName) fun other member =>
      each other (List.mem_cons_of_mem _ member), toList_join path isName, List.append_assoc,
      List.drop_left, List.takeWhile_append_of_pos]
    -- behind the name the path ends, or a slash follows
    · cases rest <;> simp
    · exact fun c member => bne_iff_ne.2 fun slash => isName.noSlash (slash ▸ member)
  rw [← String.toList_inj, ← told each, same, told each']

end Path

/-! ## Files below a node -/

namespace Files

theorem Node.walkEntries_eq (path : String) (entries : List (String × Node)) :
    walkEntries path entries =
      entries.map fun entry => (entry.1, entry.2.walk (Path.join path entry.1)) := by
  induction entries with
  | nil => rfl
  | cons entry rest ih => rw [walkEntries, ih, List.map_cons]

theorem Node.mem_walk_directory {path listed : String} {entries : List (String × Node)}
    (single : (entries.map Prod.fst).Nodup) :
    listed ∈ (directory entries).walk path ↔
      ∃ entry ∈ entries, listed ∈ entry.2.walk (Path.join path entry.1) := by
  rw [walk, walkEntries_eq, List.mem_flatten]
  constructor
  · rintro ⟨paths, among, member⟩
    obtain ⟨bound, listed, rfl⟩ := List.mem_map.1 among
    obtain ⟨entry, here, -, same⟩ := (OrdMap.mem_toList_named single).1 listed
    exact ⟨entry, here, same ▸ member⟩
  · rintro ⟨entry, here, member⟩
    have listed : (entry.1, entry.2.walk (Path.join path entry.1)) ∈ (OrdMap.ofList (entries.map
        fun entry => (entry.1, entry.2.walk (Path.join path entry.1)))).toList :=
      (OrdMap.mem_toList_named single).2 ⟨entry, here, rfl, rfl⟩
    exact ⟨_, List.mem_map_of_mem listed, member⟩

theorem Node.isName_of_below? {node found : Node} {names : List String} (named : node.WellNamed)
    (below : node.below? names = some found) : ∀ name ∈ names, IsName name := by
  induction names generalizing node with
  | nil => simp
  | cons name names ih =>
    cases named with
    | file => cases below
    | directory each _ nodes =>
      obtain ⟨child, here, further⟩ := Option.bind_eq_some_iff.1 below
      have member := mem_of_childNamed? here
      exact List.forall_mem_cons.2 ⟨each _ member, ih (nodes _ member) further⟩

/-- A walk comes upon exactly the files below. -/
theorem Node.mem_walk {node : Node} (named : node.WellNamed) {path listed : String} :
    listed ∈ node.walk path ↔ ∃ names contents,
      node.below? names = some (file contents) ∧ names.foldl Path.join path = listed := by
  -- By induction on the tree, as the walk goes: the first name picks an entry.
  induction named generalizing path with
  | file contents =>
    rw [walk, List.mem_singleton]
    constructor
    · rintro rfl
      exact ⟨[], contents, rfl, rfl⟩
    · rintro ⟨names, _, below, rfl⟩
      cases names with
      | nil => rfl
      | cons => cases below
  | directory _ single _ ih =>
    rw [mem_walk_directory single]
    constructor
    · rintro ⟨entry, here, member⟩
      obtain ⟨names, contents, below, rfl⟩ := (ih entry here).1 member
      refine ⟨entry.1 :: names, contents, ?_, rfl⟩
      rw [below?, childNamed?_of_mem single here]
      exact below
    · rintro ⟨names, contents, below, rfl⟩
      cases names with
      | nil => cases below
      | cons name names =>
        obtain ⟨child, found, further⟩ := Option.bind_eq_some_iff.1 below
        have member := mem_of_childNamed? found
        exact ⟨(name, child), member, (ih _ member).2 ⟨names, contents, further, rfl⟩⟩

/-- A walk comes upon no path twice. -/
theorem Node.nodup_walk {node : Node} (named : node.WellNamed) (path : String) :
    (node.walk path).Nodup := by
  induction named generalizing path with
  | file => exact List.nodup_singleton path
  | @directory entries each single nodes ih =>
    rw [walk, walkEntries_eq, List.nodup_flatten]
    constructor
    · intro paths among
      obtain ⟨bound, member, rfl⟩ := List.mem_map.1 among
      obtain ⟨entry, here, -, same⟩ := (OrdMap.mem_toList_named single).1 member
      exact same ▸ ih entry here _
    · -- A path that two entries share would have both their names in one place.
      refine List.pairwise_map.2 ((OrdMap.ascending _).imp_of_mem ?_)
      intro left right member member' below listed first second
      obtain ⟨entry, here, named, same⟩ := (OrdMap.mem_toList_named single).1 member
      obtain ⟨other, here', named', same'⟩ := (OrdMap.mem_toList_named single).1 member'
      rw [← same] at first
      rw [← same'] at second
      obtain ⟨names, _, leads, rfl⟩ := (mem_walk (nodes entry here)).1 first
      obtain ⟨others, _, leads', shared⟩ := (mem_walk (nodes other here')).1 second
      have equal : entry.1 = other.1 := Path.first_eq
        (List.forall_mem_cons.2 ⟨each entry here, isName_of_below? (nodes entry here) leads⟩)
        (List.forall_mem_cons.2 ⟨each other here', isName_of_below? (nodes other here') leads'⟩)
        shared.symm
      rw [← named, ← named', equal] at below
      simp at below

/-- A file lies somewhere below a directory. -/
def Tree.FileBelow (tree : Tree) (directory path : String) : Prop :=
  ∃ node names contents, tree.node directory = .ok node ∧
    node.below? names = some (.file contents) ∧ names.foldl Path.join directory = path

end Files

/-! ## Files of a suite -/

namespace Run

variable {suite : Suite} {files : Files.Tree} {paths : List String}

theorem Suite.walked (walks : suite.paths files = .ok paths) :
    ∃ node, files.node (Path.join suite.general suite.specific) = .ok node ∧
      paths = (node.walk (Path.join suite.general suite.specific)).filter fun path =>
        suite.suffix.toList.isSuffixOf path.toList := by
  rw [Suite.paths, Files.Tree.walk] at walks
  cases leads : files.node (Path.join suite.general suite.specific) with
  | error fault =>
    rw [leads] at walks
    cases walks
  | ok node =>
    rw [leads] at walks
    exact ⟨node, rfl, (Except.ok.inj walks).symm⟩

theorem Suite.nodup_paths (named : files.root.WellNamed) (walks : suite.paths files = .ok paths) :
    paths.Nodup := by
  obtain ⟨node, leads, rfl⟩ := Suite.walked walks
  exact (Files.Node.nodup_walk (Files.Tree.wellNamed_node named leads) _).filter _

theorem Suite.mem_paths (named : files.root.WellNamed) (walks : suite.paths files = .ok paths)
    {path : String} :
    path ∈ paths ↔ files.FileBelow (Path.join suite.general suite.specific) path ∧
      suite.suffix.toList <:+ path.toList := by
  obtain ⟨node, leads, rfl⟩ := Suite.walked walks
  rw [List.mem_filter, List.isSuffixOf_iff_suffix,
    Files.Node.mem_walk (Files.Tree.wellNamed_node named leads), Files.Tree.FileBelow, leads]
  simp

end Run
end ChainScenario
