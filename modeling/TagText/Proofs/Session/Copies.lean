import Mathlib.Data.List.Basic

/-!
# Sessions over copies

A caller may clone what it has configured and go on with both. A session is what is done to all the
copies that come about in this way, in one order; copies are numbered from 0 as they are made.

> `copies_eq_map_lines`: each copy is what its line of ancestry makes of the start. The line is what
> was done to it and, before it was made, to the copy that it was made of.

> `getElem?_copies_append`: what becomes of a copy is what is done to it from then on, whatever is
> done to others.

> `answer_of_lines`: so what a copy answers depends on its line alone.

The lines of ancestry are themselves a session, in which an action is only noted down, and every
other session is an image of this one (`map_step`).
-/

namespace TagText

/-- A step of a session: something that is done to a copy, or a new copy of it. -/
inductive SessionStep (α : Type) where
  | act (copy : Nat) (action : α)
  | clone (copy : Nat)

/-- What the step does to a copy, if it is addressed to it. -/
def SessionStep.on? {α : Type} (copy : Nat) : SessionStep α → Option α
  | .act other action => if other = copy then some action else none
  | .clone _ => none

namespace Session

variable {σ τ α β : Type}

/-- The copies after a step. A step to a copy that was never made does nothing. -/
def step (act : σ → α → σ) (copies : List σ) : SessionStep α → List σ
  | .act copy action => copies.modify copy (act · action)
  | .clone copy => copies ++ copies[copy]?.toList

/-- The copies after some steps, which begin with the only copy `start`. -/
def copies (act : σ → α → σ) (start : σ) (steps : List (SessionStep α)) : List σ :=
  steps.foldl (step act) [start]

/-- What the addressed copy answers to a step, before that changes it. -/
def answer? (answer : σ → α → Option β) (copies : List σ) : SessionStep α → Option β
  | .act copy action => copies[copy]?.bind (answer · action)
  | .clone _ => none

/-- The answers to the steps of a session. -/
def answers (act : σ → α → σ) (answer : σ → α → Option β) :
    (copies : List σ) → List (SessionStep α) → List (Option β)
  | _, [] => []
  | copies, s :: steps => answer? answer copies s :: answers act answer (step act copies s) steps

/-- The lines of ancestry of the copies: what was done to each of them and, before it was made, to
the copy that it was made of. -/
def lines (steps : List (SessionStep α)) : List (List α) :=
  copies (fun line action => line ++ [action]) [] steps

variable {act : σ → α → σ} {answer : σ → α → Option β} {start : σ}
  {before after : List (SessionStep α)} {copy : Nat}

/-! ## Lines of ancestry -/

/-- A map that goes along with what is done to a copy goes along with the steps of sessions. -/
theorem map_step {act' : τ → α → τ} {f : σ → τ}
    (h : ∀ c action, f (act c action) = act' (f c) action) (cs : List σ) (s : SessionStep α) :
    (step act cs s).map f = step act' (cs.map f) s := by
  cases s with
  | act copy action =>
    refine List.ext_getElem? fun i => ?_
    simp only [step, List.getElem?_map, List.getElem?_modify]
    by_cases hi : copy = i
    · cases cs[i]? <;> simp [hi, h]
    · cases cs[i]? <;> simp [hi]
  | clone copy =>
    simp only [step, List.map_append, List.getElem?_map]
    cases cs[copy]? <;> rfl

theorem map_foldl_step {act' : τ → α → τ} {f : σ → τ}
    (h : ∀ c action, f (act c action) = act' (f c) action) (cs : List σ)
    (steps : List (SessionStep α)) :
    (steps.foldl (step act) cs).map f = steps.foldl (step act') (cs.map f) := by
  induction steps generalizing cs with
  | nil => rfl
  | cons s steps ih => rw [List.foldl_cons, List.foldl_cons, ih, map_step h]

/-- Each copy is what its line of ancestry makes of the start. -/
theorem copies_eq_map_lines (act : σ → α → σ) (start : σ) (steps : List (SessionStep α)) :
    copies act start steps = (lines steps).map (·.foldl act start) := by
  have hact : ∀ (line : List α) action,
      (line ++ [action]).foldl act start = act (line.foldl act start) action := by
    simp
  exact (map_foldl_step (f := fun line : List α => line.foldl act start) hact [[]] steps).symm

/-! ## Steps one after the other -/

theorem copies_append (act : σ → α → σ) (start : σ) (before after : List (SessionStep α)) :
    copies act start (before ++ after) = after.foldl (step act) (copies act start before) :=
  List.foldl_append

/-- A step changes a copy only if it is addressed to it. -/
theorem getElem?_step {cs : List σ} {c : σ} (hc : cs[copy]? = some c) (s : SessionStep α) :
    (step act cs s)[copy]? = some ((s.on? copy).toList.foldl act c) := by
  cases s with
  | act other action =>
    rw [step, List.getElem?_modify, hc]
    by_cases hother : other = copy <;> simp [SessionStep.on?, hother]
  | clone other =>
    obtain ⟨hlt, -⟩ := List.getElem?_eq_some_iff.mp hc
    rw [step, List.getElem?_append_left hlt, hc]
    rfl

theorem getElem?_foldl_step {cs : List σ} {c : σ} (hc : cs[copy]? = some c)
    (steps : List (SessionStep α)) :
    (steps.foldl (step act) cs)[copy]? =
      some ((steps.filterMap (SessionStep.on? copy)).foldl act c) := by
  induction steps generalizing cs c with
  | nil => exact hc
  | cons s steps ih =>
    rw [List.foldl_cons, ih (getElem?_step hc s), List.filterMap_cons]
    cases s.on? copy <;> rfl

/-- What becomes of a copy is what is done to it from then on. -/
theorem getElem?_copies_append {c : σ} (hc : (copies act start before)[copy]? = some c)
    (after : List (SessionStep α)) :
    (copies act start (before ++ after))[copy]? =
      some ((after.filterMap (SessionStep.on? copy)).foldl act c) := by
  rw [copies_append, getElem?_foldl_step hc]

/-- A new copy is what the one is that it is made of. -/
theorem getElem?_copies_clone {c : σ} (hc : (copies act start before)[copy]? = some c) :
    (copies act start (before ++ [.clone copy]))[(copies act start before).length]? = some c := by
  rw [copies_append, List.foldl_cons, List.foldl_nil, step, hc]
  simp

theorem foldl_concat (line actions : List α) :
    actions.foldl (fun line action => line ++ [action]) line = line ++ actions := by
  induction actions generalizing line with
  | nil => exact (List.append_nil line).symm
  | cons action actions ih => rw [List.foldl_cons, ih, List.append_assoc, List.singleton_append]

/-- To the line of a copy nothing is added but what is done to it. -/
theorem getElem?_lines_append {line : List α} (hline : (lines before)[copy]? = some line)
    (after : List (SessionStep α)) :
    (lines (before ++ after))[copy]? =
      some (line ++ after.filterMap (SessionStep.on? copy)) := by
  rw [lines, getElem?_copies_append hline, foldl_concat]

/-- A new copy has the line of the one that it is made of. -/
theorem getElem?_lines_clone {line : List α} (hline : (lines before)[copy]? = some line) :
    (lines (before ++ [.clone copy]))[(lines before).length]? = some line :=
  getElem?_copies_clone hline

/-- Of what is done in a line, the last that gives something by `f` tells what `f` gives last. -/
theorem getLastD_filterMap_concat (f : α → Option β) (line : List α) (action : α) (d : β) :
    ((line ++ [action]).filterMap f).getLastD d =
      (f action).getD ((line.filterMap f).getLastD d) := by
  rw [List.filterMap_append]
  cases haction : f action <;> simp [haction]

/-! ## Answers -/

theorem answers_append (act : σ → α → σ) (answer : σ → α → Option β) (cs : List σ)
    (before after : List (SessionStep α)) :
    answers act answer cs (before ++ after) =
      answers act answer cs before ++ answers act answer (before.foldl (step act) cs) after := by
  induction before generalizing cs with
  | nil => rfl
  | cons s before ih => rw [List.cons_append, answers, answers, ih, List.cons_append]; rfl

theorem length_answers (act : σ → α → σ) (answer : σ → α → Option β) (cs : List σ)
    (steps : List (SessionStep α)) : (answers act answer cs steps).length = steps.length := by
  induction steps generalizing cs with
  | nil => rfl
  | cons s steps ih => rw [answers, List.length_cons, ih, List.length_cons]

/-- What a copy answers at some place of a session is what it has become until there. -/
theorem answer_of_copies {c : σ} (hc : (copies act start before)[copy]? = some c) (action : α) :
    (answers act answer [start] (before ++ .act copy action :: after))[before.length]? =
      some (answer c action) := by
  rw [answers_append, List.getElem?_append_right (Nat.le_of_eq (length_answers ..)), length_answers,
    Nat.sub_self, answers, List.getElem?_cons_zero]
  change some ((copies act start before)[copy]?.bind _) = _
  rw [hc]
  rfl

/-- What a copy answers, at any place of a session, it answers as what its line of ancestry made of
the start. -/
theorem answer_of_lines {line : List α} (hline : (lines before)[copy]? = some line) (action : α) :
    (answers act answer [start] (before ++ .act copy action :: after))[before.length]? =
      some (answer (line.foldl act start) action) := by
  refine answer_of_copies ?_ action
  rw [copies_eq_map_lines, List.getElem?_map, hline]
  rfl

/-- A step that leaves its copy as it is only adds its own answer. -/
theorem eraseIdx_answers {action : α} (hact : ∀ c, act c action = c) :
    (answers act answer [start] (before ++ .act copy action :: after)).eraseIdx before.length =
      answers act answer [start] (before ++ after) := by
  have hstep : ∀ cs : List σ, step act cs (.act copy action) = cs := by
    intro cs
    refine List.ext_getElem? fun i => ?_
    simp only [step, List.getElem?_modify, hact]
    cases cs[i]? <;> simp
  rw [answers_append, answers_append, answers, hstep,
    List.eraseIdx_append_of_length_le (Nat.le_of_eq (length_answers ..)), length_answers,
    Nat.sub_self, List.eraseIdx_cons_zero]

end Session

end TagText
