import TestForge.Operation.Call
import TestForge.Proofs.Json.Ordered

/-!
# Requests written and read again

A request that was decoded from an ordered value is written as a value that decodes to the same
request. The symbol overview is the one part that is read leniently: what is left of it is read
again as it is.
-/

namespace TestForge

/-! ## Members of records -/

namespace Json

theorem Decoded.bind_eq_ok {α β : Type} {x : Decoded α} {f : α → Decoded β} {b : β} :
    x >>= f = .ok b ↔ ∃ a, x = .ok a ∧ f a = .ok b := by
  cases x with
  | error e => simp [bind, Except.bind]
  | ok a => simp [bind, Except.bind]

theorem Decoded.map_eq_ok {α β : Type} {x : Decoded α} {f : α → β} {b : β} :
    x.map f = .ok b ↔ ∃ a, x = .ok a ∧ f a = b := by
  cases x with
  | error e => simp [Except.map]
  | ok a => simp [Except.map]

theorem eq_obj_of_members? {j : Json} {members : List (String × Json)}
    (h : j.members? = some members) : j = .obj members := by
  cases j with
  | obj found =>
      cases h
      rfl
  | null => cases h
  | bool b => cases h
  | num n => cases h
  | str s => cases h
  | arr items => cases h

theorem eq_arr_of_items? {j : Json} {items : List Json} (h : j.items? = some items) :
    j = .arr items := by
  cases j with
  | arr found =>
      cases h
      rfl
  | null => cases h
  | bool b => cases h
  | num n => cases h
  | str s => cases h
  | obj members => cases h

theorem str?_str (s : String) : (str s).str? = some s :=
  rfl

theorem str?_optStr (s : Option String) : (optStr s).str? = s := by
  cases s with
  | none => rfl
  | some value => rfl

theorem mem_of_lookup {name : String} {members : List (String × Json)} {value : Json}
    (h : lookup name members = some value) : (name, value) ∈ members := by
  induction members with
  | nil => cases h
  | cons m rest ih =>
      obtain ⟨key, old⟩ := m
      simp only [lookup] at h
      split at h
      · rename_i hk
        cases h
        exact hk ▸ List.mem_cons_self
      · exact List.mem_cons_of_mem _ (ih h)

/-- The members of an ordered value are ordered. -/
theorem Ordered.get? {j value : Json} {name : String} (hj : j.Ordered)
    (h : j.get? name = some value) : value.Ordered := by
  obtain ⟨members, hm, hl⟩ := Option.bind_eq_some_iff.1 h
  rw [eq_obj_of_members? hm] at hj
  exact (ordered_obj.1 hj).2 _ (mem_of_lookup hl)

theorem mem_checkItems {shape : Shape} {length index : Nat} {fields : List Field}
    {items : List Json} {members : List (String × Json)}
    (h : shape.checkItems length index fields items = .ok members) :
    ∀ m ∈ members, m.2 ∈ items := by
  induction fields generalizing index items members with
  | nil =>
      cases items with
      | nil =>
          cases h
          exact List.forall_mem_nil _
      | cons j rest => cases h
  | cons f fields ih =>
      cases items with
      | nil =>
          simp only [Shape.checkItems] at h
          split at h
          · cases h
          · exact ih h
      | cons j rest =>
          simp only [Shape.checkItems] at h
          split at h
          · cases h
          · cases hr : shape.checkItems length (index + 1) fields rest with
            | error e =>
                rw [hr] at h
                cases h
            | ok found =>
                rw [hr] at h
                cases h
                refine List.forall_mem_cons.2 ⟨List.mem_cons_self, fun m hm => ?_⟩
                exact List.mem_cons_of_mem _ (ih hr m hm)

theorem Shape.members_obj {shape : Shape} {members : List (String × Json)}
    (hcheck : ∀ m ∈ members, shape.checkMember m = .ok ())
    (hmissing : shape.missing? members = none) : shape.members (.obj members) = .ok members := by
  have h : shape.checkMembers members = .ok () := by
    clear hmissing
    induction members with
    | nil => rfl
    | cons m rest ih =>
        obtain ⟨hm, hrest⟩ := List.forall_mem_cons.1 hcheck
        rw [Shape.checkMembers, hm]
        exact ih hrest
  simp only [Shape.members, h, hmissing]

/-- What a record finds in an ordered value is ordered. -/
theorem Shape.ordered_members {shape : Shape} {j : Json} {members : List (String × Json)}
    (h : shape.members j = .ok members) (hj : j.Ordered) : ∀ m ∈ members, m.2.Ordered := by
  cases j with
  | obj found =>
      simp only [Shape.members] at h
      split at h
      · cases h
      · split at h
        · cases h
        · cases h
          exact (ordered_obj.1 hj).2
  | arr items =>
      intro m hm
      exact ordered_arr.1 hj m.2 (mem_checkItems h m hm)
  | null => cases h
  | bool b => cases h
  | num n => cases h
  | str s => cases h

theorem word32_word32Json (n : UInt32) : word32 (word32Json n) = .ok n := by
  have hn : (Int.ofNat n.toNat) < Int.ofNat (Nat.pow 2 32) := by
    have h := n.toNat_lt
    exact Int.ofNat_lt.2 h
  simp only [word32Json, nat, word32]
  rw [if_pos ⟨Int.natCast_nonneg _, hn⟩]
  simp

theorem sorted_word32Json (n : UInt32) : (word32Json n).sorted = word32Json n :=
  rfl

theorem listOf_text_strs (items : List String) : listOf text (strs items) = .ok items := by
  have h : decodeItems text (items.map .str) = .ok items := by
    induction items with
    | nil => rfl
    | cons s rest ih => simp [decodeItems, text, asString, ih, Except.map]
  exact h

theorem sorted_strs (items : List String) : (strs items).sorted = strs items :=
  sorted_of_ordered _ (ordered_arr.2 (by simp))

end Json

open Json

/-! ## Symbol overviews -/

namespace KindTag

theorem toJson_of_ofJson? {j : Json} {tag : KindTag} (h : ofJson? j = some tag) :
    tag.toJson = j := by
  cases j with
  | null => cases h
  | num n =>
      cases h
      cases n with
      | int value =>
          simp only [ofNumber]
          split
          · rfl
          · rfl
      | float bits => rfl
  | bool b =>
      cases h
      rfl
  | str s =>
      cases h
      rfl
  | arr items =>
      cases h
      rfl
  | obj members =>
      cases h
      rfl

theorem ofJson?_sorted {j : Json} {tag : KindTag} (h : ofJson? j = some tag) (hj : j.Ordered) :
    ofJson? tag.toJson.sorted = some tag := by
  rw [toJson_of_ofJson? h, sorted_of_ordered j hj, h]

/-- No kind at all is written as null, and null is no kind. -/
theorem ofJson?_lookup (name : String) {members : List (String × Json)}
    (h : ∀ m ∈ members, m.2.Ordered) :
    ofJson? ((((lookup name members).bind ofJson?).map toJson).getD .null).sorted =
      (lookup name members).bind ofJson? := by
  cases hl : (lookup name members).bind ofJson? with
  | none => rfl
  | some tag =>
      obtain ⟨value, hv, ht⟩ := Option.bind_eq_some_iff.1 hl
      exact ofJson?_sorted ht (h (name, value) (mem_of_lookup hv))

end KindTag

namespace SymbolNode

theorem sorted_toJson (node : SymbolNode) :
    node.toJson.sorted =
      .obj [("detail", optStr node.detail),
        ("kind", ((node.kind.map KindTag.toJson).getD .null).sorted),
        ("name", .str node.name)] := by
  obtain ⟨kind, name, detail⟩ := node
  cases detail <;>
    simp only [toJson, Option.map_none, Option.map_some, Option.getD_none, Option.getD_some, sorted,
      sortMembers, sortedMembers, List.foldl_cons, List.foldl_nil, setMember, String.reduceLT,
      String.reduceEq, ↓reduceIte, optStr]

/-- A member of an overview survives: a kind that means nothing is kept, and what was left out or
had the wrong type stands for the same as null. -/
theorem ofJson?_sorted {j : Json} {node : SymbolNode} (h : ofJson? j = some node)
    (hj : j.Ordered) : ofJson? node.toJson.sorted = some node := by
  obtain ⟨members, hm, rfl⟩ := Option.map_eq_some_iff.1 h
  cases eq_obj_of_members? hm
  have hkind := KindTag.ofJson?_lookup "kind" (ordered_obj.1 hj).2
  rw [sorted_toJson]
  simp only [ofJson?, members?, Option.map_some, lookup, String.reduceEq, ↓reduceIte,
    Option.bind_some, str?_optStr, str?_str, Option.getD_some, hkind]

end SymbolNode

namespace SymbolTree

theorem sorted_toJson (tree : SymbolTree) :
    tree.toJson.sorted =
      .obj [("children", .arr (tree.children.map fun node => node.toJson.sorted)),
        ("name", optStr tree.name)] := by
  have hitems : ∀ nodes : List SymbolNode,
      sortedItems (nodes.map SymbolNode.toJson) = nodes.map fun node => node.toJson.sorted := by
    intro nodes
    induction nodes with
    | nil => rfl
    | cons node rest ih => rw [List.map_cons, sortedItems, ih, List.map_cons]
  obtain ⟨name, children⟩ := tree
  cases name <;>
    simp only [toJson, Option.map_none, Option.map_some, Option.getD_none, Option.getD_some, sorted,
      sortMembers, sortedMembers, List.foldl_cons, List.foldl_nil, setMember, String.reduceLT,
      ↓reduceIte, optStr, hitems]

theorem filterMap_sorted {items : List Json} (h : ∀ j ∈ items, j.Ordered) :
    ((items.filterMap SymbolNode.ofJson?).map fun node => node.toJson.sorted).filterMap
      SymbolNode.ofJson? = items.filterMap SymbolNode.ofJson? := by
  induction items with
  | nil => rfl
  | cons j rest ih =>
      obtain ⟨hj, hrest⟩ := List.forall_mem_cons.1 h
      cases hn : SymbolNode.ofJson? j with
      | none =>
          rw [List.filterMap_cons_none hn]
          exact ih hrest
      | some node =>
          rw [List.filterMap_cons_some hn, List.map_cons,
            List.filterMap_cons_some (SymbolNode.ofJson?_sorted hn hj), ih hrest]

/-- An overview survives, whatever it was read from: what is no object has no members, and what is
no member is dropped once and for all. -/
theorem ofJson_sorted {j : Json} (hj : j.Ordered) : ofJson (ofJson j).toJson.sorted = ofJson j := by
  cases hm : j.members? with
  | none =>
      simp only [ofJson, hm]
      rfl
  | some members =>
      cases eq_obj_of_members? hm
      have hchildren : ∀ j ∈ ((lookup "children" members).bind items?).getD [], j.Ordered := by
        cases hl : (lookup "children" members).bind items? with
        | none => exact List.forall_mem_nil _
        | some items =>
            obtain ⟨value, hv, hi⟩ := Option.bind_eq_some_iff.1 hl
            cases eq_arr_of_items? hi
            have hvalue := (ordered_obj.1 hj).2 ("children", .arr items) (mem_of_lookup hv)
            exact ordered_arr.1 hvalue
      rw [sorted_toJson]
      simp only [ofJson, members?, lookup, String.reduceEq, ↓reduceIte, Option.bind_some,
        str?_optStr, items?, Option.getD_some, filterMap_sorted hchildren]

end SymbolTree

/-! ## Requests -/

theorem AnalyzeRequest.decode_sorted (r : AnalyzeRequest) : decode r.toJson.sorted = .ok r :=
  rfl

/-!
The members of the other requests, in the order of their names. The number of attempts is left as
it is written: to read it is `word32_word32Json`, and nothing else looks into it.
-/

namespace ValidateRequest

def written (r : ValidateRequest) (retries : Json) : List (String × Json) :=
  [("check_coverage", .bool r.checkCoverage), ("max_retries", retries),
    ("project_root", .str r.projectRoot), ("test_path", .str r.testPath)]

theorem sorted_toJson (r : ValidateRequest) :
    r.toJson.sorted = .obj (r.written (word32Json r.maxRetries)) := by
  simp only [toJson, written, sorted, sortMembers, sortedMembers, sorted_word32Json,
    List.foldl_cons, List.foldl_nil, setMember, String.reduceLT, String.reduceEq, ↓reduceIte]

theorem decode_written {r : ValidateRequest} {retries : Json}
    (h : word32 retries = .ok r.maxRetries) : decode (.obj (r.written retries)) = .ok r := by
  have hretries : shape.checkMember ("max_retries", retries) = .ok () :=
    congrArg (Except.map fun _ => ()) h
  have hcheck : ∀ m ∈ r.written retries, shape.checkMember m = .ok () := by
    simp only [written, List.forall_mem_cons]
    exact ⟨rfl, hretries, rfl, rfl, List.forall_mem_nil _⟩
  have hfield : fieldOr word32 "max_retries" defaultMaxRetries (r.written retries) =
      .ok r.maxRetries := h
  simp only [decode, Shape.members_obj hcheck rfl, bind, Except.bind, hfield]
  rfl

theorem decode_sorted (r : ValidateRequest) : decode r.toJson.sorted = .ok r := by
  rw [sorted_toJson, decode_written (word32_word32Json r.maxRetries)]

end ValidateRequest

namespace BatchRequest

def written (r : BatchRequest) (retries services : Json) : List (String × Json) :=
  [("continue_on_error", .bool r.continueOnError), ("max_retries", retries),
    ("project_root", .str r.projectRoot), ("service_paths", services),
    ("validate", .bool r.validate)]

theorem sorted_toJson (r : BatchRequest) :
    r.toJson.sorted = .obj (r.written (word32Json r.maxRetries) (strs r.servicePaths)) := by
  simp only [toJson, written, sorted, sortMembers, sortedMembers, sorted_word32Json, sorted_strs,
    List.foldl_cons, List.foldl_nil, setMember, String.reduceLT, String.reduceEq, ↓reduceIte]

theorem decode_written {r : BatchRequest} {retries services : Json}
    (h : word32 retries = .ok r.maxRetries) (hs : listOf text services = .ok r.servicePaths) :
    decode (.obj (r.written retries services)) = .ok r := by
  have hretries : shape.checkMember ("max_retries", retries) = .ok () :=
    congrArg (Except.map fun _ => ()) h
  have hservices : shape.checkMember ("service_paths", services) = .ok () :=
    congrArg (Except.map fun _ => ()) hs
  have hcheck : ∀ m ∈ r.written retries services, shape.checkMember m = .ok () := by
    simp only [written, List.forall_mem_cons]
    exact ⟨rfl, hretries, rfl, hservices, rfl, List.forall_mem_nil _⟩
  have hfield : fieldOr word32 "max_retries" defaultMaxRetries (r.written retries services) =
      .ok r.maxRetries := h
  have hlist : field (listOf text) "service_paths" (r.written retries services) =
      .ok r.servicePaths := hs
  simp only [decode, Shape.members_obj hcheck rfl, bind, Except.bind, hfield, hlist]
  rfl

theorem decode_sorted (r : BatchRequest) : decode r.toJson.sorted = .ok r := by
  rw [sorted_toJson,
    decode_written (word32_word32Json r.maxRetries) (listOf_text_strs r.servicePaths)]

end BatchRequest

namespace GenerateRequest

def written (r : GenerateRequest) (retries : Json) : List (String × Json) :=
  [("max_retries", retries), ("project_root", .str r.projectRoot)] ++
    optMember "serena_analysis" (r.symbols.map fun tree => tree.toJson.sorted) ++
    [("service_path", .str r.servicePath)] ++ optMember "test_path" (r.testPath.map .str) ++
    [("validate", .bool r.validate)]

theorem sorted_toJson (r : GenerateRequest) :
    r.toJson.sorted = .obj (r.written (word32Json r.maxRetries)) := by
  obtain ⟨root, service, symbols, target, validate, retries⟩ := r
  cases symbols <;> cases target <;>
    simp only [toJson, written, optMember, Option.map_none, Option.map_some, List.append_nil,
      List.cons_append, List.nil_append, sorted, sortMembers, sortedMembers, sorted_word32Json,
      List.foldl_cons, List.foldl_nil, setMember, String.reduceLT, String.reduceEq, ↓reduceIte]

/-- The overview is all that changes when a request is written and read again. -/
theorem decode_written {r : GenerateRequest} {retries : Json}
    (h : word32 retries = .ok r.maxRetries) :
    decode (.obj (r.written retries)) =
      .ok { r with symbols := r.symbols.map fun tree => SymbolTree.ofJson tree.toJson.sorted } := by
  have hretries : shape.checkMember ("max_retries", retries) = .ok () :=
    congrArg (Except.map fun _ => ()) h
  have hoverview (tree : SymbolTree) :
      shape.checkMember ("serena_analysis", tree.toJson.sorted) = .ok () :=
    rfl
  have hfield : fieldOr word32 "max_retries" defaultMaxRetries (r.written retries) =
      .ok r.maxRetries := h
  obtain ⟨root, service, symbols, target, validate, attempts⟩ := r
  have hcheck : ∀ m ∈ written ⟨root, service, symbols, target, validate, attempts⟩ retries,
      shape.checkMember m = .ok () := by
    cases symbols <;> cases target <;>
      simp only [written, optMember, Option.map_none, Option.map_some, List.append_nil,
        List.cons_append, List.nil_append, List.forall_mem_cons, hretries, hoverview]
    · exact ⟨trivial, rfl, rfl, rfl, List.forall_mem_nil _⟩
    · exact ⟨trivial, rfl, rfl, rfl, rfl, List.forall_mem_nil _⟩
    · exact ⟨trivial, rfl, trivial, rfl, rfl, List.forall_mem_nil _⟩
    · exact ⟨trivial, rfl, trivial, rfl, rfl, rfl, List.forall_mem_nil _⟩
  have hmissing :
      shape.missing? (written ⟨root, service, symbols, target, validate, attempts⟩ retries) =
        none := by
    cases symbols <;> cases target <;> rfl
  simp only [decode, Shape.members_obj hcheck hmissing, bind, Except.bind, hfield]
  cases symbols <;> cases target <;> rfl

/-- The overview of a request that was decoded was read from one of the members. -/
theorem symbols_of_decode {r : GenerateRequest} {v : Json} (h : decode v = .ok r)
    (hv : v.Ordered) : ∀ tree ∈ r.symbols, ∃ j : Json, j.Ordered ∧ tree = SymbolTree.ofJson j := by
  obtain ⟨members, hm, h⟩ := Decoded.bind_eq_ok.1 h
  obtain ⟨root, _, h⟩ := Decoded.bind_eq_ok.1 h
  obtain ⟨service, _, h⟩ := Decoded.bind_eq_ok.1 h
  obtain ⟨symbols, hs, h⟩ := Decoded.bind_eq_ok.1 h
  obtain ⟨target, _, h⟩ := Decoded.bind_eq_ok.1 h
  obtain ⟨validate, _, h⟩ := Decoded.bind_eq_ok.1 h
  obtain ⟨retries, _, h⟩ := Decoded.bind_eq_ok.1 h
  cases h
  simp only [fieldOr] at hs
  intro tree ht
  cases hl : lookup "serena_analysis" members with
  | none =>
      rw [hl] at hs
      cases hs
      cases ht
  | some j =>
      rw [hl] at hs
      have hj : j.Ordered := Shape.ordered_members hm hv _ (mem_of_lookup hl)
      refine ⟨j, hj, ?_⟩
      cases j <;> cases hs <;> cases ht <;> rfl

theorem decode_sorted {r : GenerateRequest} {v : Json} (h : decode v = .ok r) (hv : v.Ordered) :
    decode r.toJson.sorted = .ok r := by
  have hsymbols : r.symbols.map (fun tree => SymbolTree.ofJson tree.toJson.sorted) = r.symbols := by
    cases hs : r.symbols with
    | none => rfl
    | some tree =>
        obtain ⟨j, hj, rfl⟩ := symbols_of_decode h hv tree hs
        rw [Option.map_some, SymbolTree.ofJson_sorted hj]
  rw [sorted_toJson, decode_written (word32_word32Json r.maxRetries), hsymbols]

end GenerateRequest

namespace Dispatcher

/-- A decoded request, written and read again, is the same request. -/
theorem Request.decode_sorted {op : Operation} {v : Json} {request : Request}
    (h : decode op v = .ok request) (hv : v.Ordered) :
    decode op request.toJson.sorted = .ok request := by
  cases op with
  | analyzeService =>
      obtain ⟨r, -, rfl⟩ := Decoded.map_eq_ok.1 h
      rw [decode, toJson]
      exact Decoded.map_eq_ok.2 ⟨r, r.decode_sorted, rfl⟩
  | generateUnitTest =>
      obtain ⟨r, hr, rfl⟩ := Decoded.map_eq_ok.1 h
      rw [decode, toJson]
      exact Decoded.map_eq_ok.2 ⟨r, GenerateRequest.decode_sorted hr hv, rfl⟩
  | generateIntegrationTest =>
      obtain ⟨r, hr, rfl⟩ := Decoded.map_eq_ok.1 h
      rw [decode, toJson]
      exact Decoded.map_eq_ok.2 ⟨r, GenerateRequest.decode_sorted hr hv, rfl⟩
  | generateBatchTests =>
      obtain ⟨r, -, rfl⟩ := Decoded.map_eq_ok.1 h
      rw [decode, toJson]
      exact Decoded.map_eq_ok.2 ⟨r, r.decode_sorted, rfl⟩
  | validateTest =>
      obtain ⟨r, -, rfl⟩ := Decoded.map_eq_ok.1 h
      rw [decode, toJson]
      exact Decoded.map_eq_ok.2 ⟨r, r.decode_sorted, rfl⟩

end Dispatcher

end TestForge
