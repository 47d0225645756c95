import Grounding.Proofs.Equality
import Grounding.Proofs.Pipeline.Groups
import Grounding.Proofs.Pipeline.Order

/-!
# Every retrieval is filed once

Groups are keyed by queries, of which equal ones share a group. `Groups.Files` is what it means that
groups file what was found: the keys are the first ones of the equal queries, no two keys are equal,
every query has its key, under a key stand the lists that were found with the queries that equal it,
in the order in which they were found, and all lists are there.

One more list that is filed keeps to this (`Groups.Files.add`), if equality is an equivalence on the
queries. Thus the groups of a whole search do: `files_groupsOf`.

`run_files`: in every run with a result that expands to regular queries, the groups of the result
file what the retriever has answered, as the run itself has recorded it, and the figures of the
result count the queries, the lists and the documents of the groups.
-/

set_option autoImplicit false
set_option relaxedAutoImplicit false

namespace Grounding

variable {σ : Type}

/-- The last element is dropped if it is a duplicate of what has been kept. -/
theorem eraseDupsBy_concat {α : Type} (r : α → α → Bool) (items : List α) (last : α) :
    (items ++ [last]).eraseDupsBy r =
      if (items.eraseDupsBy r).any (r last) then items.eraseDupsBy r
      else items.eraseDupsBy r ++ [last] := by
  have hloop : ∀ kept, List.eraseDupsBy.loop r (items ++ [last]) kept =
      if (List.eraseDupsBy.loop r items kept).any (r last) then List.eraseDupsBy.loop r items kept
      else List.eraseDupsBy.loop r items kept ++ [last] := by
    induction items with
    | nil =>
      intro kept
      cases hany : kept.any (r last) <;> simp [List.eraseDupsBy.loop, hany]
    | cons item rest ih =>
      intro kept
      rw [List.cons_append, List.eraseDupsBy.loop, List.eraseDupsBy.loop]
      split
      · exact ih kept
      · exact ih (item :: kept)
  exact hloop []

namespace Groups

/-- Groups that file what was found with some queries. -/
structure Files (found : List (Query × List Document)) (groups : Groups) : Prop where
  keys : groups.map Prod.fst =
    (found.map Prod.fst).eraseDupsBy fun query key ↦ key.equal query
  distinct : (groups.map Prod.fst).Pairwise fun first second ↦
    first.equal second = false ∧ second.equal first = false
  first : ∀ key ∈ groups.map Prod.fst,
    (found.map Prod.fst).find? (fun query ↦ key.equal query) = some key
  complete : ∀ query ∈ found.map Prod.fst, ∃ key ∈ groups.map Prod.fst, key.equal query = true
  lists : ∀ group ∈ groups,
    group.2 = (found.filter fun entry ↦ group.1.equal entry.1).map Prod.snd
  all : groups.lists.Perm (found.map Prod.snd)

namespace Files

variable {found : List (Query × List Document)} {groups : Groups} {query : Query}

/-- Every key is a query that something was found with. -/
theorem key_mem (h : groups.Files found) {key : Query} (hkey : key ∈ groups.map Prod.fst) :
    key ∈ found.map Prod.fst :=
  List.mem_of_find?_eq_some (h.first key hkey)

theorem keys_add (h : groups.Files found) (query : Query) (documents : List Document) :
    (groups.add query documents).map Prod.fst =
      ((found ++ [(query, documents)]).map Prod.fst).eraseDupsBy
        fun query key ↦ key.equal query := by
  rw [Groups.keys_add, List.map_append, List.map_singleton, eraseDupsBy_concat, ← h.keys,
    List.any_map]
  rfl

theorem all_add (h : groups.Files found) (query : Query) (documents : List Document) :
    (groups.add query documents).lists.Perm
      ((found ++ [(query, documents)]).map Prod.snd) := by
  rw [List.map_append]
  exact (lists_add_perm groups query documents).trans (h.all.append_right _)

section Regular

variable (h : groups.Files found) (hregular : ∀ asked ∈ found.map Prod.fst, asked.Regular)
  (hquery : query.Regular)
include h hregular hquery

/-- One key at most equals a query. -/
theorem equal_at_most_one : groups.Pairwise fun first second ↦
    first.1.equal query = true → second.1.equal query = false := by
  have hkeys : ∀ group ∈ groups, group.1.Regular := fun group hmem ↦
    hregular _ (h.key_mem (List.mem_map_of_mem hmem))
  refine (List.pairwise_map.mp h.distinct).imp_of_mem fun {first second} hfirst hsecond hpair ↦ ?_
  intro hequal
  by_contra hother
  have hback := (hkeys _ hsecond).equal_symm hquery (by simpa using hother)
  have hsame := (hkeys _ hfirst).equal_trans hquery (hkeys _ hsecond) hequal hback
  rw [hpair.1] at hsame
  exact Bool.false_ne_true hsame

/-- Assumes: a query that equals no key. It equals no query that something was found with. -/
theorem equal_none (hnew : groups.any (fun group ↦ group.1.equal query) = false) :
    ∀ asked ∈ found.map Prod.fst, query.equal asked = false ∧ asked.equal query = false := by
  intro asked hasked
  obtain ⟨key, hkey, hequal⟩ := h.complete asked hasked
  have hunequal : key.equal query = false := by
    obtain ⟨group, hgroup, rfl⟩ := List.mem_map.mp hkey
    simpa using List.any_eq_false.mp hnew group hgroup
  have hregularKey := hregular key (h.key_mem hkey)
  have hforth : asked.equal query = false := by
    by_contra hother
    have hsame := hregularKey.equal_trans (hregular asked hasked) hquery hequal
      (by simpa using hother)
    rw [hunequal] at hsame
    exact Bool.false_ne_true hsame
  refine ⟨?_, hforth⟩
  by_contra hother
  have hback := hquery.equal_symm (hregular asked hasked) (by simpa using hother)
  rw [hforth] at hback
  exact Bool.false_ne_true hback

/-- Assumes: a query that equals a key. A list of it is filed under that key. -/
theorem add_known (documents : List Document)
    (hknown : groups.any (fun group ↦ group.1.equal query) = true) :
    (groups.add query documents).Files (found ++ [(query, documents)]) := by
  have hkeys := Groups.keys_add groups query documents
  have hlists := add_eq documents (h.equal_at_most_one hregular hquery)
  rw [if_pos hknown] at hkeys hlists
  refine ⟨h.keys_add query documents, ?_, ?_, ?_, ?_, h.all_add query documents⟩
  · rw [hkeys]
    exact h.distinct
  · rw [hkeys]
    intro key hkey
    rw [List.map_append, List.find?_append, h.first key hkey, Option.some_or]
  · rw [hkeys, List.map_append]
    intro asked hasked
    rcases List.mem_append.mp hasked with hold | hnew
    · exact h.complete asked hold
    · obtain rfl := List.mem_singleton.mp hnew
      obtain ⟨group, hgroup, hequal⟩ := List.any_eq_true.mp hknown
      exact ⟨group.1, List.mem_map_of_mem hgroup, hequal⟩
  · rw [hlists]
    intro group hgroup
    obtain ⟨old, hold, rfl⟩ := List.mem_map.mp hgroup
    rw [List.filter_append, List.map_append, ← h.lists old hold]
    by_cases hequal : old.1.equal query = true
    · simp [hequal]
    · simp [hequal]

/-- Assumes: a query that equals no key. A list of it is filed under a new key, at the end. -/
theorem add_new (documents : List Document)
    (hnew : groups.any (fun group ↦ group.1.equal query) = false) :
    (groups.add query documents).Files (found ++ [(query, documents)]) := by
  have hkeys := Groups.keys_add groups query documents
  have hlists := add_eq documents (h.equal_at_most_one hregular hquery)
  rw [if_neg (Bool.eq_false_iff.mp hnew)] at hkeys hlists
  have hnone := h.equal_none hregular hquery hnew
  have hself := hquery.equal_refl
  refine ⟨h.keys_add query documents, ?_, ?_, ?_, ?_, h.all_add query documents⟩
  · rw [hkeys]
    refine List.pairwise_append.mpr ⟨h.distinct, List.pairwise_singleton _ _, ?_⟩
    intro key hkey other hother
    obtain rfl := List.mem_singleton.mp hother
    exact (hnone key (h.key_mem hkey)).symm
  · rw [hkeys, List.map_append]
    intro key hkey
    rw [List.find?_append]
    rcases List.mem_append.mp hkey with hold | hlast
    · rw [h.first key hold, Option.some_or]
    · obtain rfl := List.mem_singleton.mp hlast
      have hnothing : (found.map Prod.fst).find? (fun asked ↦ key.equal asked) = none := by
        rw [List.find?_eq_none]
        intro asked hasked
        rw [(hnone asked hasked).1]
        exact Bool.false_ne_true
      simp [hnothing, hself]
  · rw [hkeys, List.map_append]
    intro asked hasked
    rcases List.mem_append.mp hasked with hold | hlast
    · obtain ⟨key, hkey, hequal⟩ := h.complete asked hold
      exact ⟨key, List.mem_append_left _ hkey, hequal⟩
    · obtain rfl := List.mem_singleton.mp hlast
      exact ⟨asked, List.mem_append_right _ List.mem_cons_self, hself⟩
  · rw [hlists]
    intro group hgroup
    rw [List.filter_append, List.map_append]
    rcases List.mem_append.mp hgroup with hold | hlast
    · have hother := List.any_eq_false.mp hnew group hold
      simp [hother, ← h.lists group hold]
    · obtain rfl := List.mem_singleton.mp hlast
      have hnothing : (found.filter fun entry ↦ query.equal entry.1) = [] := by
        rw [List.filter_eq_nil_iff]
        intro entry hentry
        rw [(hnone entry.1 (List.mem_map_of_mem hentry)).1]
        exact Bool.false_ne_true
      simp [hnothing, hself]

/-- One more list is filed. -/
theorem add (documents : List Document) :
    (groups.add query documents).Files (found ++ [(query, documents)]) := by
  cases hany : groups.any fun group ↦ group.1.equal query with
  | true => exact h.add_known hregular hquery documents hany
  | false => exact h.add_new hregular hquery documents hany

end Regular

end Files

end Groups

namespace Pipeline

/-- Assumes: regular queries. The groups of what was found with them file it. -/
theorem files_groupsOf {found : List (Query × List Document)}
    (hregular : ∀ asked ∈ found.map Prod.fst, asked.Regular) : (groupsOf found).Files found := by
  induction found using List.reverseRecOn with
  | nil => exact ⟨rfl, .nil, by simp [groupsOf], by simp, by simp [groupsOf], .refl _⟩
  | append_singleton found entry ih =>
    obtain ⟨query, documents⟩ := entry
    rw [List.map_append, List.forall_mem_append] at hregular
    rw [groupsOf_concat]
    exact (ih hregular.1).add hregular.1 (hregular.2 query List.mem_cons_self) documents

/-! ### Runs -/

/-- The query and the list of a retrieval that was answered with one. -/
def retrieval? (exchange : PipelineExchange) : Option (Query × List Document) :=
  match exchange.call, exchange.outcome with
  | .retrieve query, .ok (.documents (some documents)) => some (query, documents)
  | _, _ => none

/-- What the retriever has answered in a run, query by query. -/
def retrievals (pipeline : Pipeline σ) (query : Query) (scene : Scene σ) :
    List (Query × List Document) :=
  (pipeline.exchanges query scene).filterMap retrieval?

theorem retrieval?_eq_none {exchange : PipelineExchange}
    (h : ∀ asked, exchange.call ≠ .retrieve asked) : retrieval? exchange = none := by
  unfold retrieval?
  split
  · rename_i hcall _
    exact absurd hcall (h _)
  · rfl

/-- The retrievals of a plan are what it has found. -/
theorem Plan.filterMap_retrieval? {pipeline : Pipeline σ} {query : Query}
    (plan : Plan pipeline query) : plan.exchanges.filterMap retrieval? = plan.found := by
  have htransforming : (transforming 0 query plan.transformed).filterMap retrieval? = [] := by
    refine List.filterMap_eq_nil_iff.mpr fun exchange hmem ↦ retrieval?_eq_none fun asked ↦ ?_
    obtain ⟨position, handed, hcall⟩ := call_of_mem_relayed hmem
    simp [hcall]
  have hexpanding : (pipeline.expanding (plan.transformed.getLastD query)
      plan.expanded).filterMap retrieval? = [] := by
    unfold expanding
    cases pipeline.expander with
    | none => rfl
    | some expander => rfl
  have hretrieving : (retrieving plan.found).filterMap retrieval? = plan.found := by
    unfold retrieving
    rw [List.filterMap_map]
    exact List.filterMap_some
  simp only [exchanges, List.filterMap_append, htransforming, hexpanding, hretrieving]
  simp [retrieval?, Exchange.answered]

/-- The documents of found lists, counted list by list. -/
theorem foldr_length (found : List (Query × List Document)) :
    found.foldr (fun (_, documents) total ↦ documents.length + total) 0 =
      (found.map Prod.snd).flatten.length := by
  induction found with
  | nil => rfl
  | cons entry rest ih => simp [ih]

/-- Assumes: a run with a result that expands to regular queries. Every retrieval was answered, with
a list for each expanded query in order. The groups of the result file these lists, and the figures
of the result count the queries, the lists of the groups and their documents. -/
theorem run_files (pipeline : Pipeline σ) (query : Query) (scene : Scene σ)
    (result : PipelineResult) (hrun : (pipeline.run query).outcome scene = .ok result)
    (hregular : ∀ asked ∈ result.expandedQueries, asked.Regular) :
    (∀ exchange ∈ pipeline.exchanges query scene, ∀ asked, exchange.call = .retrieve asked →
        ∃ documents, retrieval? exchange = some (asked, documents)) ∧
      (pipeline.retrievals query scene).map Prod.fst = result.expandedQueries ∧
      result.documentsByQuery.Files (pipeline.retrievals query scene) ∧
      result.diagnostics.expandedQueries = result.expandedQueries.length ∧
      result.documentsByQuery.lists.length = result.expandedQueries.length ∧
      result.diagnostics.documentsRetrieved = result.documentsByQuery.lists.flatten.length ∧
      result.diagnostics.documentsJoined = result.documents.length ∧
      (result.diagnostics.emptyContext = true ↔ result.documents = []) := by
  obtain ⟨plan, hexchanges, rfl⟩ := exists_plan_of_run pipeline hrun
  have hfound : pipeline.retrievals query scene = plan.found := by
    rw [retrievals, hexchanges, plan.filterMap_retrieval?]
  have hqueries : plan.found.map Prod.fst = plan.result.expandedQueries := plan.found_queries
  have hfiles : plan.result.documentsByQuery.Files plan.found :=
    files_groupsOf (hqueries ▸ hregular)
  rw [hfound, hexchanges]
  refine ⟨fun exchange hmem asked hcall ↦ ?_, hqueries, hfiles, rfl, ?_, ?_, rfl,
    List.isEmpty_iff⟩
  · obtain ⟨documents, -, houtcome⟩ := plan.exists_found hmem hcall
    exact ⟨documents, by simp [retrieval?, hcall, houtcome]⟩
  · rw [hfiles.all.length_eq, ← hqueries, List.length_map, List.length_map]
  · rw [hfiles.all.flatten.length_eq]
    exact foldr_length plan.found

/-- The query for a number. -/
def numbered (number : Value) : Query :=
  { text := "q", context := [("n", number)] }

/-- A pipeline that asks about one and two, and about one twice more, as another type of number. -/
def recurring : Pipeline Unit where
  retriever := {
    name := "numbers"
    literal := "numbers"
    retrieve := fun query ↦ pure (some [{ id := query.text, metadata := query.context }]) }
  expander := some {
    name := "numbers"
    literal := "numbers"
    expand := fun _ ↦ pure (some ([.int 1, .int 2, .float 1.0, .bool true].map numbered)) }
  augmenter := {
    literal := "numbers"
    augment := fun query _ ↦ pure query }

/-- Three of the four queries are equal and share a group. -/
theorem run_files_recurring :
    ∃ result, (recurring.run { text := "q" }).outcome ⟨(), []⟩ = .ok result ∧
      (∀ asked ∈ result.expandedQueries, asked.Regular) ∧
      result.documentsByQuery.Files (recurring.retrievals { text := "q" } ⟨(), []⟩) ∧
      result.diagnostics.documentsRetrieved = result.documentsByQuery.lists.flatten.length ∧
      result.documentsByQuery.map (fun group ↦ group.2.length) = [3, 1] := by
  have hrun : ∃ result, (recurring.run { text := "q" }).outcome ⟨(), []⟩ = .ok result ∧
      result.expandedQueries = [.int 1, .int 2, .float 1.0, .bool true].map numbered ∧
      result.documentsByQuery.map (fun group ↦ group.2.length) = [3, 1] :=
    ⟨_, rfl, rfl, by decide +kernel⟩
  obtain ⟨result, hresult, hexpanded, hgroups⟩ := hrun
  have hnumbered : ∀ number, Value.Regular number → (numbered number).Regular := by
    intro number hnumber
    have hcontext : Context.Regular [("n", number)] :=
      .dict (List.nodup_singleton "n") (List.forall_mem_singleton.mpr hnumber)
    exact ⟨by simp [numbered], hcontext⟩
  have hregular : ∀ asked ∈ result.expandedQueries, asked.Regular := by
    have hone : Value.Regular (.float 1.0) :=
      (Value.regular_float_iff 1.0).mpr (by decide +kernel)
    rw [hexpanded]
    simp only [List.map_cons, List.map_nil, List.forall_mem_cons]
    exact ⟨hnumbered _ (.int 1), hnumbered _ (.int 2), hnumbered _ hone,
      hnumbered _ (.bool true), by simp⟩
  obtain ⟨-, -, hfiles, -, -, hdocuments, -, -⟩ :=
    run_files recurring { text := "q" } ⟨(), []⟩ result hresult hregular
  exact ⟨result, hresult, hregular, hfiles, hdocuments, hgroups⟩

end Pipeline

end Grounding
