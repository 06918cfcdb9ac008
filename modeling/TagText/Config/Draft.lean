import TagText.Config.Setting

/-!
# Documents under construction

While a document is read, its tables remember how they came to be, because that decides what may
still be added. A table that was named by a header, or written in braces, is defined: no header
may name it again. One that only lies on the way to another may be defined later, and one that
came from a dotted key may get more entries through dotted keys, but no header of its own.
-/

namespace TagText

/-- How a table came to be. -/
inductive TableOrigin where
  /-- It lies on the way to a table that a header names. -/
  | passed
  /-- A header names it. -/
  | header
  /-- It lies on the way of a dotted key. -/
  | dotted
  deriving DecidableEq

/-- A part of a document. A list of tables has its last element first. -/
inductive Draft where
  | value (s : Setting)
  | table (origin : TableOrigin) (entries : List (String × Draft))
  | tables (elements : List (List (String × Draft)))

namespace Draft

/-- The entries with those of the table at the end of `path` changed. Tables that are not there are
made on the way; of a list of tables the last is meant. -/
def modify (change : Named Draft → Option (Named Draft)) (entries : Named Draft) :
    List String → Option (Named Draft)
  | [] => change entries
  | key :: path =>
    match Named.get? entries key with
    | none => (modify change [] path).map fun es => Named.put entries key (.table .passed es)
    | some (.table origin es) =>
      (modify change es path).map fun es => Named.put entries key (.table origin es)
    | some (.tables (es :: more)) =>
      (modify change es path).map fun es => Named.put entries key (.tables (es :: more))
    | some _ => none

/-- The entries with the table of a header defined. -/
def define (key : String) (entries : Named Draft) : Option (Named Draft) :=
  match Named.get? entries key with
  | none => some (Named.put entries key (.table .header []))
  | some (.table .passed es) => some (Named.put entries key (.table .header es))
  | some _ => none

/-- The entries with one more element in a list of tables. -/
def append (key : String) (entries : Named Draft) : Option (Named Draft) :=
  match Named.get? entries key with
  | none => some (Named.put entries key (.tables [[]]))
  | some (.tables es) => some (Named.put entries key (.tables ([] :: es)))
  | some _ => none

/-- The entries with a value under a key that may have dots. -/
def assign (value : Setting) (entries : Named Draft) : List String → Option (Named Draft)
  | [] => none
  | [key] =>
    if Named.contains entries key then none else some (Named.put entries key (.value value))
  | key :: path =>
    match Named.get? entries key with
    | none => (assign value [] path).map fun es => Named.put entries key (.table .dotted es)
    | some (.table origin es) =>
      if origin = .header || (origin = .passed && path.length = 1) then none
      else (assign value es path).map fun es => Named.put entries key (.table origin es)
    | some _ => none

mutual

/-- The part as a setting. -/
def toSetting : Draft → Setting
  | .value s => s
  | .table _ entries => .table (toEntries entries)
  | .tables elements => .array (toItems elements).reverse

/-- The entries as settings. -/
def toEntries : List (String × Draft) → List (String × Setting)
  | [] => []
  | (name, d) :: rest => (name, toSetting d) :: toEntries rest

/-- Tables as settings. -/
def toItems : List (List (String × Draft)) → List Setting
  | [] => []
  | es :: rest => .table (toEntries es) :: toItems rest

end

end Draft

end TagText
