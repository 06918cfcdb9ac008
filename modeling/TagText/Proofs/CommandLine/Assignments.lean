import Mathlib.Data.List.Permutation
import Mathlib.Data.List.TakeWhile
import TagText.CommandLine.Run
import TagText.Proofs.Named.Distinct
import TagText.Proofs.Rendering.Walk
import TagText.Proofs.Value.Plain

/-!
# The values of the command line

The values of a run come from a file that holds a JSON map and from assignments `key=value`. The
reader of JSON puts the entries of a map in the order of their names (`names_pairwise_of_ofJson?`),
whatever their order in the text. Assignments are then put over them one after the other:

> `readValues_assembled`: of several values under one key the last assigned stays. The keys of the
> file come first, and then those that it has not, in the order in which they were first assigned.

An assignment is parted at its first equals sign (`assignment?_append`), so texts that all hold one
are nothing but pairs of a key and a text, joined (`exists_assigns`), and to assign these is to put
them over the values at once (`assignAll_of_assigns`).
-/

namespace TagText

/-! ## The order of maps from JSON -/

namespace Json

variable {read : ValueReader}

/-- What follows an opening bracket is read as a list. -/
theorem list_of_readItems {n : Nat} {taken : List Value} {s : List Char} {hle : s.length ≤ n}
    {r : Reading Value n} (h : readItems read taken s hle = some r) :
    ∃ items, r.value = .list items := by
  fun_induction readItems read taken s hle with
  | case2 taken s hle v rest shorter hv _ _ more hmore ih => exact ih h
  | case3 taken s hle v rest shorter hv _ _ after hafter => exact Option.some.inj h ▸ ⟨_, rfl⟩
  | case1 | case4 => exact absurd h (by simp)

/-- What follows an opening brace is read as a map whose names ascend. -/
theorem map_of_readEntries {n : Nat} {taken : Entries} {s : List Char} {hle : s.length ≤ n}
    {r : Reading Value n} (htaken : (Named.names taken).Nodup)
    (h : readEntries read taken s hle = some r) :
    ∃ entries, r.value = .map entries ∧ (Named.names entries).Pairwise (· < ·) := by
  fun_induction readEntries read taken s hle with
  | case3 taken s hle _ s₁ hs name s₂ h₂ hname _ s₃ h₃ _ v rest shorter hv _ more hmore ih =>
    exact ih (Named.nodup_names_put htaken name v) h
  | case4 taken s hle _ s₁ hs name s₂ h₂ hname _ s₃ h₃ _ v rest shorter hv _ after hafter =>
    refine Option.some.inj h ▸ ⟨_, rfl, ?_⟩
    exact Named.names_sort_pairwise (Named.nodup_names_put htaken name v)
  | case1 | case2 | case5 | case6 | case7 => exact absurd h (by simp)

theorem names_pairwise_of_readValue {depth : Nat} {s : List Char} {r : Reading Value s.length}
    {entries : Entries} (h : readValue depth s = some r) (hmap : r.value = .map entries) :
    (Named.names entries).Pairwise (· < ·) := by
  cases readAs_of_readValue h with
  | null h => cases h.symm.trans hmap
  | bool b h => cases h.symm.trans hmap
  | int i h => cases h.symm.trans hmap
  | float x h => cases h.symm.trans hmap
  | string text h => cases h.symm.trans hmap
  | emptyList h => cases h.symm.trans hmap
  | emptyMap h =>
    cases h.symm.trans hmap
    exact List.Pairwise.nil
  | items _ h =>
    obtain ⟨items, hitems⟩ := list_of_readItems h
    cases hitems.symm.trans hmap
  | entries _ h =>
    have hnil : (Named.names ([] : Entries)).Nodup := List.nodup_nil
    obtain ⟨ascending, hascending, hpairwise⟩ := map_of_readEntries hnil h
    cases hascending.symm.trans hmap
    exact hpairwise

end Json

/-- The names of a map that comes from JSON ascend. -/
theorem names_pairwise_of_ofJson? {text : String} {entries : Entries}
    (h : Value.ofJson? text = some (.map entries)) :
    (Named.names entries).Pairwise (· < ·) := by
  obtain ⟨s, r, hread, hmap⟩ := exists_readValue_of_ofJson? h
  exact Json.names_pairwise_of_readValue hread hmap

namespace Invocation

variable {files : Files} {i : Invocation} {entries : Entries} {texts : List String}
  {pairs : List (String × String)}

/-! ## Assignments -/

/-- The texts are these keys and values, each joined by an equals sign that is the first one. -/
structure Assigns (texts : List String) (pairs : List (String × String)) : Prop where
  texts_eq : texts = pairs.map fun p => p.1 ++ "=" ++ p.2
  not_mem : ∀ p ∈ pairs, '=' ∉ p.1.toList

/-- An assignment is parted at its first equals sign. -/
theorem assignment?_append {key : String} (hkey : '=' ∉ key.toList) (raw : String) :
    assignment? (key ++ "=" ++ raw) = some (key, raw) := by
  have hlist : (key ++ "=" ++ raw).toList = key.toList ++ '=' :: raw.toList := by simp
  have hall : ∀ c ∈ key.toList, (c != '=') = true := by
    intro c hc
    exact bne_iff_ne.mpr fun heq => hkey (heq ▸ hc)
  rw [assignment?, hlist, List.dropWhile_append_of_pos hall, List.takeWhile_append_of_pos hall]
  simp

theorem assignment?_eq_none {text : String} (h : '=' ∉ text.toList) : assignment? text = none := by
  have hdrop : text.toList.dropWhile (· != '=') = [] := by
    refine List.dropWhile_eq_nil_iff.mpr fun c hc => ?_
    exact bne_iff_ne.mpr fun heq => h (heq ▸ hc)
  rw [assignment?, hdrop]

/-- A text that holds an equals sign is an assignment. -/
theorem exists_eq_append {text : String} (h : '=' ∈ text.toList) :
    ∃ key raw, text = key ++ "=" ++ raw ∧ '=' ∉ key.toList := by
  obtain ⟨key, raw, hsplit, hkey⟩ := List.eq_append_cons_of_mem h
  refine ⟨String.ofList key, String.ofList raw, String.toList_inj.mp ?_, by simpa using hkey⟩
  simp [hsplit]

theorem exists_assigns (h : ∀ t ∈ texts, '=' ∈ t.toList) : ∃ pairs, Assigns texts pairs := by
  induction texts with
  | nil => exact ⟨[], rfl, fun p hp => absurd hp List.not_mem_nil⟩
  | cons t texts ih =>
    obtain ⟨ht, htexts⟩ := List.forall_mem_cons.mp h
    obtain ⟨key, raw, rfl, hkey⟩ := exists_eq_append ht
    obtain ⟨pairs, rfl, hpairs⟩ := ih htexts
    exact ⟨(key, raw) :: pairs, rfl, List.forall_mem_cons.mpr ⟨hkey, hpairs⟩⟩

/-- Assignments are put over the values in their order. -/
theorem assignAll_of_assigns (h : Assigns texts pairs) (values : Entries) :
    assignAll values texts =
      .ok (Named.extend values (pairs.map fun p => (p.1, assignedValue p.2))) := by
  obtain ⟨rfl, hkeys⟩ := h
  induction pairs generalizing values with
  | nil => rfl
  | cons p pairs ih =>
    obtain ⟨hp, hpairs⟩ := List.forall_mem_cons.mp hkeys
    rw [List.map_cons, assignAll, assignment?_append hp]
    exact ih (Named.put values p.1 (assignedValue p.2)) hpairs

/-- Assigning fails at the first text that holds no equals sign. -/
theorem assignAll_eq_error_iff {values : Entries} {e : CommandError} :
    assignAll values texts = .error e ↔
      FirstAfter (fun t => '=' ∈ t.toList) (fun t => '=' ∉ t.toList ∧ e = .assignment t) texts := by
  induction texts generalizing values with
  | nil => simp [assignAll, not_firstAfter_nil]
  | cons t texts ih =>
    rw [firstAfter_cons, assignAll]
    by_cases ht : '=' ∈ t.toList
    · obtain ⟨key, raw, rfl, hkey⟩ := exists_eq_append ht
      rw [assignment?_append hkey]
      simp [ih]
    · rw [assignment?_eq_none ht]
      simp [ht, eq_comm]

theorem exists_assignAll_error_iff {values : Entries} :
    (∃ e, assignAll values texts = .error e) ↔ ∃ t ∈ texts, '=' ∉ t.toList := by
  simp only [assignAll_eq_error_iff]
  constructor
  · rintro ⟨e, hfirst⟩
    exact hfirst.exists_mem.imp fun t ht => ⟨ht.1, ht.2.1⟩
  · rintro ⟨t, ht, hnone⟩
    obtain ⟨before, u, after, hsplit, hbefore, hu⟩ :=
      (forall_or_firstAfter (fun t : String => '=' ∈ t.toList) texts).resolve_left
        fun hall => hnone (hall t ht)
    exact ⟨.assignment u, before, u, after, hsplit, hbefore, hu, rfl⟩

/-! ## All values of a run -/

/-- What the assignments are put over: nothing, or the map of the file. -/
inductive BeginsWith (files : Files) (i : Invocation) : Entries → Prop where
  | nothing (hpath : i.values = none) : BeginsWith files i []
  | file {path text : String} {entries : Entries} (hpath : i.values = some path)
      (hfile : files path = .ok text) (hjson : Value.ofJson? text = some (.map entries)) :
      BeginsWith files i entries

theorem BeginsWith.names_pairwise (h : i.BeginsWith files entries) :
    (Named.names entries).Pairwise (· < ·) := by
  cases h with
  | nothing hpath => exact List.Pairwise.nil
  | file hpath hfile hjson => exact names_pairwise_of_ofJson? hjson

/-- The entries of the file are taken as they come from JSON. -/
theorem BeginsWith.readValues_eq (h : i.BeginsWith files entries) :
    i.readValues files = assignAll entries i.sets := by
  have hofList : Named.ofList entries = entries := by
    have hnodup : (Named.names entries).Nodup := h.names_pairwise.imp String.ne_of_lt
    have hextend : Named.extend [] entries = [] ++ entries := Named.extend_of_nodup hnodup
    exact hextend
  unfold readValues
  cases h with
  | nothing hpath =>
    rw [hpath]
    rfl
  | file hpath hfile hjson =>
    rw [hpath]
    simp only [readValuesFile, hfile, hjson, hofList]
    rfl

end Invocation

/-- **Values of the command line.** Reading them fails at the first argument that holds no equals
sign, and only there. Otherwise the arguments are keys and texts, parted at the first equals sign.
Under each key stands the value that was last assigned to it: what its text holds as JSON, else the
text as a string. Under a key that nothing was assigned to stands what the file has there. The keys
are those of the file, which ascend, and then the others as they came first. -/
theorem readValues_assembled {files : Files} {i : Invocation} {entries : Entries}
    (h : i.BeginsWith files entries) :
    ((∃ e, i.readValues files = .error e) ↔ ∃ t ∈ i.sets, '=' ∉ t.toList) ∧
    (∀ e, i.readValues files = .error e ↔ FirstAfter (fun t => '=' ∈ t.toList)
      (fun t => '=' ∉ t.toList ∧ e = .assignment t) i.sets) ∧
    ((∀ t ∈ i.sets, '=' ∈ t.toList) → ∃ pairs, Invocation.Assigns i.sets pairs) ∧
    (Named.names entries).Pairwise (· < ·) ∧
    ∀ pairs, Invocation.Assigns i.sets pairs → ∃ values, i.readValues files = .ok values ∧
      (∀ before key raw after, pairs = before ++ (key, raw) :: after →
        key ∉ after.map Prod.fst →
          Named.get? values key = some ((Value.ofJson? raw).getD (.string raw))) ∧
      (∀ key, key ∉ pairs.map Prod.fst → Named.get? values key = Named.get? entries key) ∧
      Named.names values = Named.names entries ++
        ((pairs.map Prod.fst).removeAll (Named.names entries)).eraseDups := by
  have hkeys : ∀ pairs : List (String × String),
      (pairs.map fun p => (p.1, Invocation.assignedValue p.2)).map Prod.fst =
        pairs.map Prod.fst :=
    Named.names_map Invocation.assignedValue
  rw [h.readValues_eq]
  refine ⟨Invocation.exists_assignAll_error_iff, fun e => Invocation.assignAll_eq_error_iff,
    Invocation.exists_assigns, h.names_pairwise, fun pairs hpairs =>
      ⟨_, Invocation.assignAll_of_assigns hpairs entries, ?_, fun key hkey => ?_, ?_⟩⟩
  · rintro before key raw after rfl hafter
    rw [List.map_append, List.map_cons]
    refine Named.get?_extend_of_last ?_ entries _ (Invocation.assignedValue raw)
    rw [hkeys]
    exact hafter
  · rw [Named.get?_extend_of_not_mem]
    rw [hkeys]
    exact hkey
  · rw [Named.names_extend, hkeys]

/-- A file of values in which one key stands before another that is less. -/
def Files.unordered : Files := fun _ => .ok "\x7b\"b\":1,\"a\":2\x7d"

/-- A run of `render` over the values of a file. -/
def Invocation.overFile (sets : List String) : Invocation :=
  ⟨.render, "", false, some "values.json", sets, none, none⟩

/-- Arguments that hold a second equals sign, are no JSON, or change the type of a value. -/
def Invocation.repeated : Invocation := .overFile ["c=x=1", "a=\"y\"", "c=[]"]

theorem readValues_assembled_repeated :
    Invocation.repeated.BeginsWith .unordered [("a", .int 2), ("b", .int 1)] ∧
    ∃ values, Invocation.repeated.readValues .unordered = .ok values ∧
      Named.get? values "a" = some (.string "y") ∧ Named.get? values "b" = some (.int 1) ∧
      Named.get? values "c" = some (.list []) ∧ Named.names values = ["a", "b", "c"] := by
  have hbegin : Invocation.repeated.BeginsWith .unordered [("a", .int 2), ("b", .int 1)] :=
    .file rfl rfl (by cbv)
  have hassigns : Invocation.Assigns Invocation.repeated.sets
      [("c", "x=1"), ("a", "\"y\""), ("c", "[]")] :=
    ⟨by decide, by decide +kernel⟩
  have hy : Value.ofJson? "\"y\"" = some (.string "y") := rfl
  have hlist : Value.ofJson? "[]" = some (.list []) := rfl
  obtain ⟨-, -, -, -, hvalues⟩ := readValues_assembled hbegin
  obtain ⟨values, hread, hlast, hkept, hnames⟩ := hvalues _ hassigns
  refine ⟨hbegin, values, hread, ?_, ?_, ?_, ?_⟩
  · rw [hlast [("c", "x=1")] "a" "\"y\"" [("c", "[]")] rfl (by decide), hy, Option.getD_some]
  · exact hkept "b" (by decide)
  · rw [hlast [("c", "x=1"), ("a", "\"y\"")] "c" "[]" [] rfl (by decide), hlist, Option.getD_some]
  · rw [hnames]
    decide

/-- The order of a file is lost: its keys come in the order of their names. -/
theorem readValues_unordered :
    Files.unordered "values.json" = .ok (Value.map [("b", .int 1), ("a", .int 2)]).json ∧
    ∃ values, (Invocation.overFile []).readValues .unordered = .ok values ∧
      Named.names values = ["a", "b"] ∧ Named.names values ≠ ["b", "a"] := by
  refine ⟨congrArg Except.ok ?_, [("a", .int 2), ("b", .int 1)], ?_, rfl, by decide⟩
  · decide +kernel
  · cbv

end TagText
