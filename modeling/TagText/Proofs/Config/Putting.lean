import TagText.Proofs.Config.Keys
import TagText.Proofs.Named.Lookup

/-!
# Settings put one over the other

Documents and overrides come to assignments: a value is put at the end of some steps. Seen from one
key, an assignment aims at another place, at the section of the key, at the key itself, or at a
place within what the key has (`ConfigKey.aim`), and this tells what it does to the key.
-/

namespace TagText

/-- Where every step that tells something makes that the view of a state, and every other step keeps
the view, the view in the end is what was told last. -/
theorem look_foldl {σ α β : Type} {step : σ → α → σ} (look : σ → Option β) {tells : α → Option β}
    {xs : List α} (h : ∀ a ∈ xs, ∀ s, look (step s a) = (tells a).or (look s)) (s : σ) :
    look (xs.foldl step s) = (xs.filterMap tells).getLast?.or (look s) := by
  induction xs generalizing s with
  | nil => rfl
  | cons a xs ih =>
    obtain ⟨ha, hxs⟩ := List.forall_mem_cons.mp h
    rw [List.foldl_cons, ih hxs, ha, ← Option.or_assoc, List.filterMap_cons]
    cases tells a with
    | none => rw [Option.or_none]
    | some b =>
      rw [List.getLast?_cons]
      cases (xs.filterMap tells).getLast? <;> rfl

namespace Setting

variable {root v : Setting} {name other : String}

/-! ## Putting under a name -/

theorem put_of_isTable_eq_false (h : v.isTable = false) :
    root.put name v = .table (Named.put root.entries (foldName name) v) := by
  cases v <;> simp_all [put, isTable]

theorem exists_eq_table (h : v.isTable = true) : ∃ entries, v = .table entries := by
  cases v with
  | table entries => exact ⟨entries, rfl⟩
  | _ => exact absurd h (by simp [isTable])

theorem isTable_put : (root.put name v).isTable = true := by
  cases v <;> rfl

theorem get?_entries_put_of_ne (h : other ≠ foldName name) :
    Named.get? (root.put name v).entries other = Named.get? root.entries other := by
  cases v <;> exact Named.get?_put_of_ne _ _ h

theorem get?_entries_put (h : v.isTable = false) :
    Named.get? (root.put name v).entries (foldName name) = some v := by
  rw [put_of_isTable_eq_false h]
  exact Named.get?_put_self _ _ _

theorem get?_entries_put_table {incoming : Named Setting} :
    Named.get? (root.put name (.table incoming)).entries (foldName name) =
      some (((Named.get? root.entries (foldName name)).getD (.table [])).merge incoming) :=
  Named.get?_put_self _ _ _

theorem merge_eq_foldl (root : Setting) (entries : Named Setting) :
    root.merge entries = entries.foldl (fun root e => root.put e.1 e.2) root := by
  induction entries generalizing root with
  | nil => rfl
  | cons e entries ih => exact ih (root.put e.1 e.2)

/-- The last entry of a name, in whatever letter case the name is written. -/
def lastNamed? (name : String) (entries : Named Setting) : Option Setting :=
  (entries.filterMap fun e => if foldName e.1 = name then some e.2 else none).getLast?

/-- After a merge a name has its last entry, and without one what it had. -/
theorem get?_entries_merge {incoming : Named Setting}
    (h : ∀ e ∈ incoming, foldName e.1 = name → e.2.isTable = false) (root : Setting) :
    Named.get? (root.merge incoming).entries name =
      (lastNamed? name incoming).or (Named.get? root.entries name) := by
  rw [merge_eq_foldl]
  refine look_foldl (fun root => Named.get? root.entries name) (fun e he root => ?_) root
  by_cases hname : foldName e.1 = name
  · rw [if_pos hname, Option.some_or, ← hname, get?_entries_put (h e he hname)]
  · rw [if_neg hname, Option.none_or, get?_entries_put_of_ne (Ne.symm hname)]

theorem isArray_merge (h : root.isArray = false) (entries : Named Setting) :
    (root.merge entries).isArray = false := by
  induction entries generalizing root with
  | nil => exact h
  | cons e entries ih =>
    refine ih ?_
    cases e.2 <;> rfl

/-! ## Putting at the end of steps -/

theorem putAt_name : root.putAt v [.name name] = root.put name v := rfl

theorem putAt_name_cons {step : KeyStep} {steps : List KeyStep} :
    root.putAt v (.name name :: step :: steps) =
      .table (Named.put root.entries (foldName name)
        (((Named.get? root.entries (foldName name)).getD .unset).putAt v (step :: steps))) := by
  unfold putAt
  rw [List.getLast?_cons_cons]
  cases hlast : (step :: steps).getLast? with
  | none => exact absurd hlast (by simp)
  | some last => cases last <;> rfl

theorem get?_entries_putAt_of_ne {steps : List KeyStep} (h : other ≠ foldName name) :
    Named.get? (root.putAt v (.name name :: steps)).entries other =
      Named.get? root.entries other := by
  cases steps with
  | nil => exact get?_entries_put_of_ne h
  | cons step steps =>
    rw [putAt_name_cons]
    exact Named.get?_put_of_ne _ _ h

theorem get?_entries_putAt {step : KeyStep} {steps : List KeyStep} :
    Named.get? (root.putAt v (.name name :: step :: steps)).entries (foldName name) =
      some (((Named.get? root.entries (foldName name)).getD .unset).putAt v (step :: steps)) := by
  rw [putAt_name_cons]
  exact Named.get?_put_self _ _ _

/-- What something was put into is a table or an array. -/
theorem isTable_or_isArray_putAt {step : KeyStep} {steps : List KeyStep} :
    (root.putAt v (step :: steps)).isTable = true ∨
      (root.putAt v (step :: steps)).isArray = true := by
  cases step with
  | name name =>
    cases steps with
    | nil => exact Or.inl isTable_put
    | cons step steps =>
      rw [putAt_name_cons]
      exact Or.inl rfl
  | item index =>
    refine Or.inr ?_
    cases steps with
    | nil => rfl
    | cons step steps =>
      unfold putAt
      rw [List.getLast?_cons_cons]
      cases hlast : (step :: steps).getLast? with
      | none => exact absurd hlast (by simp)
      | some last => cases last <;> rfl

end Setting

/-! ## Assignments seen from a key -/

/-- A value to be put at the end of steps. -/
abbrev Assignment := List KeyStep × Setting

/-- Where an assignment aims at, seen from a key. -/
inductive Aim where
  /-- At another place. -/
  | apart
  /-- At the section of the key. -/
  | above
  /-- At the key. -/
  | here
  /-- At a place within what the key has. -/
  | below
  /-- At an item of an array in the place of the section, or of the whole. -/
  | item
  deriving DecidableEq

namespace ConfigKey

/-- Where steps lead, seen from the key. -/
def aim (k : ConfigKey) : List KeyStep → Aim
  | [] => .apart
  | .item _ :: _ => .item
  | .name sectionName :: steps =>
    if Setting.foldName sectionName = k.sectionName then
      match steps with
      | [] => .above
      | .item _ :: _ => .item
      | .name name :: steps =>
        if Setting.foldName name = k.name then if steps = [] then .here else .below else .apart
    else .apart

/-- The shapes of steps and where they aim at. -/
inductive AimsAt (k : ConfigKey) : List KeyStep → Aim → Prop where
  | nothing : AimsAt k [] .apart
  | itemOfRoot {index : Int} {steps : List KeyStep} : AimsAt k (.item index :: steps) .item
  | otherSection {sectionName : String} {steps : List KeyStep}
      (hsection : k.sectionName ≠ Setting.foldName sectionName) :
      AimsAt k (.name sectionName :: steps) .apart
  | wholeSection {sectionName : String} (hsection : Setting.foldName sectionName = k.sectionName) :
      AimsAt k [.name sectionName] .above
  | itemOfSection {sectionName : String} {index : Int} {steps : List KeyStep}
      (hsection : Setting.foldName sectionName = k.sectionName) :
      AimsAt k (.name sectionName :: .item index :: steps) .item
  | otherName {sectionName name : String} {steps : List KeyStep}
      (hsection : Setting.foldName sectionName = k.sectionName)
      (hname : k.name ≠ Setting.foldName name) :
      AimsAt k (.name sectionName :: .name name :: steps) .apart
  | key {sectionName name : String} (hsection : Setting.foldName sectionName = k.sectionName)
      (hname : Setting.foldName name = k.name) :
      AimsAt k [.name sectionName, .name name] .here
  | within {sectionName name : String} {step : KeyStep} {steps : List KeyStep}
      (hsection : Setting.foldName sectionName = k.sectionName)
      (hname : Setting.foldName name = k.name) :
      AimsAt k (.name sectionName :: .name name :: step :: steps) .below

theorem aimsAt_aim (k : ConfigKey) (steps : List KeyStep) : k.AimsAt steps (k.aim steps) := by
  rcases steps with _ | ⟨sectionName | _, steps⟩
  · exact .nothing
  · by_cases hsection : Setting.foldName sectionName = k.sectionName
    · rcases steps with _ | ⟨name | _, steps⟩
      · simpa only [aim, if_pos hsection] using .wholeSection hsection
      · by_cases hname : Setting.foldName name = k.name
        · cases steps with
          | nil => simpa only [aim, if_pos hsection, if_pos hname] using .key hsection hname
          | cons step steps =>
            simpa only [aim, if_pos hsection, if_pos hname] using .within hsection hname
        · simpa only [aim, if_pos hsection, if_neg hname] using
            .otherName hsection (Ne.symm hname)
      · simpa only [aim, if_pos hsection] using .itemOfSection hsection
    · simpa only [aim, if_neg hsection] using .otherSection (Ne.symm hsection)
  · exact .itemOfRoot

theorem aimsAt_of_aim_eq {k : ConfigKey} {steps : List KeyStep} {aim : Aim}
    (h : k.aim steps = aim) : k.AimsAt steps aim :=
  h ▸ k.aimsAt_aim steps

end ConfigKey

namespace Setting

variable {root v : Setting} {k : ConfigKey} {name : String} {steps : List KeyStep}

theorem find?_putAt_of_apart (h : k.aim steps = .apart) :
    (root.putAt v steps).find? k = root.find? k := by
  cases ConfigKey.aimsAt_of_aim_eq h with
  | nothing => rfl
  | otherSection hsection => rw [find?, get?_entries_putAt_of_ne hsection, find?]
  | otherName hsection hname =>
    rw [find?, ← hsection, get?_entries_putAt, Option.bind_some, get?_entries_putAt_of_ne hname,
      find?, hsection]
    cases Named.get? root.entries k.sectionName <;> rfl

theorem find?_putAt_of_above (h : k.aim steps = .above) (hv : v.isTable = false) :
    (root.putAt v steps).find? k = none := by
  cases ConfigKey.aimsAt_of_aim_eq h with
  | wholeSection hsection =>
    rw [find?, ← hsection, putAt_name, get?_entries_put hv, Option.bind_some]
    cases v <;> simp_all [entries, isTable, Named.get?]

theorem find?_putAt_table_of_above {incoming : Named Setting} (h : k.aim steps = .above)
    (hincoming : ∀ e ∈ incoming, foldName e.1 = k.name → e.2.isTable = false) :
    (root.putAt (.table incoming) steps).find? k =
      (lastNamed? k.name incoming).or (root.find? k) := by
  cases ConfigKey.aimsAt_of_aim_eq h with
  | wholeSection hsection =>
    rw [find?, ← hsection, putAt_name, get?_entries_put_table, Option.bind_some,
      get?_entries_merge hincoming, find?, hsection]
    cases Named.get? root.entries k.sectionName <;> rfl

theorem find?_putAt_of_here (h : k.aim steps = .here) (hv : v.isTable = false) :
    (root.putAt v steps).find? k = some v := by
  cases ConfigKey.aimsAt_of_aim_eq h with
  | key hsection hname =>
    rw [find?, ← hsection, get?_entries_putAt, Option.bind_some, putAt_name, ← hname,
      get?_entries_put hv]

theorem find?_putAt_of_below {s : Setting} (h : k.aim steps = .below)
    (hs : (root.putAt v steps).find? k = some s) : s.isTable = true ∨ s.isArray = true := by
  cases ConfigKey.aimsAt_of_aim_eq h with
  | within hsection hname =>
    rw [find?, ← hsection, get?_entries_putAt, Option.bind_some, ← hname, get?_entries_putAt] at hs
    exact Option.some.inj hs ▸ isTable_or_isArray_putAt

theorem isArray_putAt_name : (root.putAt v (.name name :: steps)).isArray = false := by
  cases steps with
  | nil => cases v <;> rfl
  | cons step steps =>
    rw [putAt_name_cons]
    rfl

theorem Sectioned.isArray_put (h : root.Sectioned) (hv : v.isArray = false) {s : Setting}
    (hsection : foldName name = k.sectionName)
    (hs : Named.get? (root.put name v).entries k.sectionName = some s) : s.isArray = false := by
  rw [← hsection] at hs
  cases htable : v.isTable with
  | false =>
    rw [get?_entries_put htable] at hs
    exact Option.some.inj hs ▸ hv
  | true =>
    obtain ⟨incoming, rfl⟩ := exists_eq_table htable
    rw [get?_entries_put_table] at hs
    refine Option.some.inj hs ▸ isArray_merge ?_ incoming
    rw [hsection]
    cases htarget : Named.get? root.entries k.sectionName with
    | none => rfl
    | some target => exact h k target htarget

/-- Settings stay without an array for a section if none is put there. -/
theorem Sectioned.putAt (h : root.Sectioned) (hitem : ∀ k : ConfigKey, k.aim steps ≠ .item)
    (habove : ∀ k : ConfigKey, k.aim steps = .above → v.isArray = false) :
    (root.putAt v steps).Sectioned := by
  intro k s hs
  have haims := k.aimsAt_aim steps
  generalize hk : k.aim steps = aim at haims
  cases haims with
  | nothing => exact h k s hs
  | itemOfRoot | itemOfSection => exact absurd hk (hitem k)
  | otherSection hsection =>
    rw [get?_entries_putAt_of_ne hsection] at hs
    exact h k s hs
  | wholeSection hsection => exact h.isArray_put (habove k hk) hsection hs
  | otherName hsection | key hsection | within hsection =>
    -- What lay in the section may give way, but to a table.
    rw [← hsection, get?_entries_putAt] at hs
    exact Option.some.inj hs ▸ isArray_putAt_name

end Setting

end TagText
