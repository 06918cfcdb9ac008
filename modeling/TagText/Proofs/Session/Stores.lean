import TagText.Proofs.Named.Distinct
import TagText.Proofs.Rendering.Dependence
import TagText.Proofs.Session.Copies

/-!
# Stores keep the last values

Values are added to a store in batches, with questions in between, and a store may be cloned on the
way. All that calls do comes down to one batch of everything that they add (`foldl_after_eq`), so
what a store holds is told by the pairs that were ever added, in the order in which they came:

> `get_of_added`: a path whose first key was ever added goes on from the last value under it.

> `get_add_of_not_mem`: to any other path it does not matter what was added.

> `getElem?_copies_clone_append`: a clone and the store that it is made of are one store at first,
> and each becomes what is added to itself.
-/

namespace TagText

/-- What may be asked of a store. -/
inductive StoreCall where
  | add (values : Entries)
  | get (path : List String)

namespace StoreCall

/-- The values that the call adds. -/
def added : StoreCall → List (String × Value)
  | .add values => values
  | .get _ => []

/-- All that calls add, in the order in which it comes. -/
def allAdded (calls : List StoreCall) : List (String × Value) := calls.flatMap added

/-- The last value that calls add under a key. -/
def lastAdded? (calls : List StoreCall) (key : String) : Option Value :=
  Named.get? (allAdded calls).reverse key

/-- All that the steps of a session add to one copy. -/
def addedTo (copy : Nat) (steps : List (SessionStep StoreCall)) : List (String × Value) :=
  allAdded (steps.filterMap (SessionStep.on? copy))

end StoreCall

open StoreCall

namespace Store

/-- The store after a call. -/
def after (s : Store) : StoreCall → Store
  | .add values => s.add values
  | .get _ => s

/-- What the store answers to a call. Only a path has an answer. -/
def answer? (objects : Objects) (s : Store) : StoreCall → Option (Except ValueError Value)
  | .add _ => none
  | .get path => some (s.get objects path)

variable {objects : Objects} {s : Store} {calls : List StoreCall} {key : String}
  {path : List String}

/-! ## What calls add -/

theorem after_eq (s : Store) (call : StoreCall) : s.after call = s.add call.added := by
  cases call <;> rfl

/-- Calls add all that they add as if at once. -/
theorem foldl_after_eq (s : Store) (calls : List StoreCall) :
    calls.foldl after s = s.add (allAdded calls) := by
  induction calls generalizing s with
  | nil => rfl
  | cons call calls ih =>
    rw [List.foldl_cons, ih, after_eq]
    exact congrArg (Store.mk s.bound) (Named.extend_append s.entries call.added _).symm

theorem get?_add (s : Store) (values : List (String × Value)) (key : String) :
    Named.get? (s.add values).entries key =
      (Named.get? values.reverse key).or (Named.get? s.entries key) :=
  Named.get?_extend s.entries values key

theorem exists_lastAdded? (h : key ∈ (allAdded calls).map Prod.fst) :
    ∃ v, lastAdded? calls key = some v := by
  refine Option.ne_none_iff_exists'.mp fun hnone => ?_
  rw [lastAdded?, Named.get?_eq_none_iff, Named.names, List.map_reverse, List.mem_reverse] at hnone
  exact hnone h

/-! ## Paths -/

theorem get_of_added {v : Value} (h : lastAdded? calls key = some v) (s : Store)
    (keys : List String) :
    (calls.foldl after s).get objects (key :: keys) = v.descend objects key keys := by
  have hkey : Named.get? (s.add (allAdded calls)).entries key = some v := by
    rw [get?_add, ← lastAdded?, h, Option.some_or]
  rw [foldl_after_eq, get, hkey]

theorem get_add_of_not_mem {values : List (String × Value)}
    (h : ∀ key, path.head? = some key → key ∉ values.map Prod.fst) (s : Store) :
    (s.add values).get objects path = s.get objects path :=
  get_congr rfl fun key hkey => Named.get?_extend_of_not_mem (h key hkey)

theorem get_ofObject (object : ObjectFace Value) (path : List String) :
    (ofObject object).get objects path = (Value.object object).resolve objects path := by
  cases path <;> rfl

/-! ## Clones -/

/-- The store that is cloned and its clone are told apart only by what is added to each of them. -/
theorem getElem?_copies_clone_append {start : Store} {before : List (SessionStep StoreCall)}
    {copy other : Nat} (hs : (Session.copies after start before)[copy]? = some s)
    (hother : other = copy ∨ other = (Session.copies after start before).length)
    (later : List (SessionStep StoreCall)) :
    (Session.copies after start (before ++ .clone copy :: later))[other]? =
      some (s.add (addedTo other later)) := by
  have hclone : (Session.copies after start (before ++ [.clone copy]))[other]? = some s := by
    rcases hother with rfl | rfl
    · exact Session.getElem?_copies_append hs [.clone other]
    · exact Session.getElem?_copies_clone hs
  rw [addedTo, ← foldl_after_eq, ← Session.getElem?_copies_append hclone, List.append_assoc]
  rfl

end Store

/-- **Stores keep the last values.** A store to which calls add values has each key once, at the
place where it was first added, with the value that was last added under it; to add two batches is
to add the first extended by the second. Behind a key that was ever added, a store with an object
goes on from the last value of this key, and any other path it leaves to the object. After a store
was cloned, it and its clone each answer as the store did then, with what is added to that one since
over it: what is added to the other is not seen, nor what is added under other keys. -/
theorem stores_keep_last (objects : Objects) :
    (∀ calls, (Named.names (calls.foldl Store.after ∅).entries).Nodup ∧
      Named.names (calls.foldl Store.after ∅).entries =
        ((allAdded calls).map Prod.fst).eraseDups ∧
      ∀ key, Named.get? (calls.foldl Store.after ∅).entries key = lastAdded? calls key) ∧
    (∀ (s : Store) (first second : Entries), (Named.names first).Nodup →
      (s.add first).add second = s.add (Named.extend first second)) ∧
    (∀ object calls key, key ∈ (allAdded calls).map Prod.fst →
      ∃ v, lastAdded? calls key = some v ∧ ∀ keys,
        (calls.foldl Store.after (.ofObject object)).get objects (key :: keys) =
          v.descend objects key keys) ∧
    (∀ object calls path, (∀ key, path.head? = some key → key ∉ (allAdded calls).map Prod.fst) →
      (calls.foldl Store.after (.ofObject object)).get objects path =
        (Value.object object).resolve objects path) ∧
    ∀ start before copy s, (Session.copies Store.after start before)[copy]? = some s →
      ∀ later rest path other,
        other = copy ∨ other = (Session.copies Store.after start before).length →
        (Session.answers Store.after (Store.answer? objects) [start]
            ((before ++ .clone copy :: later) ++ .act other (.get path) :: rest))[
              (before ++ .clone copy :: later).length]? =
          some (some ((s.add (addedTo other later)).get objects path)) ∧
        ((∀ key, path.head? = some key → key ∉ (addedTo other later).map Prod.fst) →
          (s.add (addedTo other later)).get objects path = s.get objects path) := by
  refine ⟨fun calls => ?_, fun s first second hfirst => ?_, fun object calls key hkey => ?_,
    fun object calls path hpath => ?_,
    fun start before copy s hs later rest path other hother =>
      ⟨?_, fun hpath => Store.get_add_of_not_mem hpath s⟩⟩
  · rw [Store.foldl_after_eq]
    refine ⟨Named.nodup_names_ofList _, Named.names_ofList _, fun key => ?_⟩
    rw [Store.get?_add]
    exact Option.or_none
  · rw [Store.add, Store.add, Store.add, Named.extend_extend hfirst]
  · obtain ⟨v, hv⟩ := Store.exists_lastAdded? hkey
    exact ⟨v, hv, Store.get_of_added hv (.ofObject object)⟩
  · rw [Store.foldl_after_eq, Store.get_add_of_not_mem hpath, Store.get_ofObject]
  · rw [Session.answer_of_copies (Store.getElem?_copies_clone_append hs hother later)]
    rfl

/-- An article with a title and a summary. -/
def ObjectParts.article : ObjectParts where
  typeName := "Article"
  properties := [("title", .string "T"), ("summary", .string "S")]
  accessors := []
  display := none

/-- A summary and an author are added to the article, and another summary, which is empty. -/
def StoreCall.summarized : List StoreCall := [
  .add [("summary", .string "first"), ("author", .null)],
  .get ["summary"],
  .add [("summary", .map [])]]

theorem stores_keep_last_article :
    let objects := Objects.ofParts #[ObjectParts.article]
    let article := Store.ofObject (ObjectParts.article.face 0)
    (article.add [("summary", .null)]).add [("author", .null), ("summary", .map [])] =
      article.add [("summary", .map []), ("author", .null)] ∧
    (StoreCall.summarized.foldl Store.after article).get objects ["summary", "length"] =
      .error (.blocked .undefinedKey "summary.length") ∧
    (StoreCall.summarized.foldl Store.after article).get objects ["title"] = .ok (.string "T") ∧
    -- What is added to the article after it was cloned does not hide the title from the clone.
    (Session.answers Store.after (Store.answer? objects) [article]
      [.clone 0, .act 0 (.add [("title", .null)]), .act 1 (.get ["title"])])[2]? =
        some (some (.ok (.string "T"))) := by
  intro objects article
  obtain ⟨-, hadd, hadded, hother, hclone⟩ := stores_keep_last objects
  obtain ⟨v, hv, hsummary⟩ := hadded (ObjectParts.article.face 0) StoreCall.summarized "summary"
    (by decide)
  obtain rfl : Value.map [] = v := Option.some.inj hv
  obtain ⟨hanswer, hsame⟩ := hclone article [] 0 article rfl [.act 0 (.add [("title", .null)])] []
    ["title"] 1 (.inr rfl)
  refine ⟨hadd article _ _ (by decide), hsummary ["length"],
    hother _ StoreCall.summarized ["title"] (by decide), hanswer.trans ?_⟩
  rw [hsame (by decide)]
  rfl

end TagText
