import WebGuard.Api.Pagination
import WebGuard.Contracts.PyText
import WebGuard.Contracts.ScanPermits

/-!
# Page requests

`PageRequest` and `parse_page_request` of `pagination.py`. The query of a request and the filters
that a route accepts are dicts, so each key is there once.

What `int` makes of a text is a parameter.
-/

namespace WebGuard.Pagination

open PyJson
open ScanPermits (sortedSet)

class IntReader where
  /-- `int(text, 10)`, or nothing for a `ValueError`. -/
  intOf : PyText → Option Int

/-- The query of a request: the values of each parameter. -/
structure PageQuery where
  items : List (PyText × List PyText)
  distinct : (items.map Prod.fst).Nodup

/-- `allowed_filters` and `free_form_filters`. -/
structure FilterRules where
  allowed : List (PyText × List PyText)
  freeForm : List PyText
  distinct : (allowed.map Prod.fst).Nodup

/-- The names of the filters. -/
def FilterRules.names (rules : FilterRules) : List PyText :=
  rules.allowed.map Prod.fst ++ rules.freeForm

/-! ## The request -/

structure PageRequestFields where
  limit : Int
  cursor : Option PyText
  filters : List (PyText × PyText)
  deriving DecidableEq

/-- `PageRequest`: the keys of its filters are in order. -/
structure PageRequest extends PageRequestFields where
  ordered : (filters.map Prod.fst).IsChain (· < ·)

def PageRequest.filterMap (page : PageRequest) : Filters where
  items := page.filters
  distinct := (List.isChain_iff_pairwise.mp page.ordered).imp fun h => ne_of_lt h

/-- `__post_init__` of `PageRequest`. -/
def PageRequestFields.postInit (raw : PageRequestFields) : Answer PageRequest := do
  demand (1 ≤ raw.limit && raw.limit ≤ 100) "page_limit_invalid"
    "limit must be an integer from 1 to 100."
  demand (raw.cursor.all (!·.isEmpty)) "page_cursor_invalid" "cursor must be non-empty text."
  demand (raw.cursor.all (·.length ≤ maximumCursorLength)) "page_cursor_too_long"
    "cursor cannot exceed 4096 characters."
  if h : (raw.filters.map Prod.fst).IsChain (· < ·) ∧
      raw.filters.all (fun item => !item.1.isEmpty && !item.2.isEmpty) = true then
    .ok ⟨raw, h.1⟩
  else
    refuse "page_filters_non_canonical" "filters must be non-empty and ordered by unique key."

/-! ## The query -/

/-- A value of a filter of free form. -/
def isFreeForm (value : PyText) : Bool :=
  value.length ≤ 2048 && value.all fun n => 32 ≤ n && n ≠ 127

def limitName : PyText := ofString "limit"

def cursorName : PyText := ofString "cursor"

/-- The rest of a dict when a key is taken out. -/
def without (name : PyText) (values : List (PyText × PyText)) : List (PyText × PyText) :=
  values.filter fun item => item.1 ≠ name

section

variable [UnicodeTables]

/-- The one value of a parameter. -/
def singleValue (item : PyText × List PyText) : Answer (PyText × PyText) :=
  match item.2 with
  | [value] =>
    if value.isEmpty then
      refuse "page_query_parameter_empty"
        ("Query parameter " ++ UnicodeTables.quoted item.1 ++ " cannot be empty.")
    else .ok (item.1, value)
  | _ =>
    refuse "page_query_parameter_duplicate"
      ("Query parameter " ++ UnicodeTables.quoted item.1 ++ " must appear exactly once.")

/-- One name in a loop over the names of filters: the filters, and the values that are left. -/
def takeFilter (accepts : PyText → Bool) (state : List (PyText × PyText) × List (PyText × PyText))
    (name : PyText) : Answer (List (PyText × PyText) × List (PyText × PyText)) :=
  match state.2.lookup name with
  | none => .ok state
  | some value =>
    if accepts value then .ok (state.1 ++ [(name, value)], without name state.2)
    else
      refuse "page_filter_invalid"
        ("Query parameter " ++ UnicodeTables.quoted name ++ " has an unsupported value.")

/-- The refusal of parameters that have no use. -/
def demandNone (unknown : List PyText) : Answer Unit :=
  demand unknown.isEmpty "page_query_parameter_unknown"
    ("Unknown query parameter " ++ UnicodeTables.quoted ((sortedSet unknown).headD []) ++ ".")

variable [IntReader]

def parsePageRequest (query : PageQuery) (rules : FilterRules) : Answer PageRequest := do
  let known := limitName :: cursorName :: rules.names
  demandNone ((query.items.map Prod.fst).filter (!known.contains ·))
  let values ← query.items.mapM singleValue
  let rawLimit := (values.lookup limitName).getD (ofString "50")
  match IntReader.intOf rawLimit with
  | none => refuse "page_limit_invalid" "limit must be an integer from 1 to 100."
  | some limit =>
    let byName := rules.allowed.insertionSort fun a b => a.1 ≤ b.1
    let state ← byName.foldlM (fun state rule => takeFilter (rule.2.contains ·) state rule.1)
      ([], without limitName values)
    let state ← (sortedSet rules.freeForm).foldlM (takeFilter isFreeForm) state
    let filters := state.1.insertionSort fun a b => a.1 ≤ b.1
    demandNone ((without cursorName state.2).map Prod.fst)
    PageRequestFields.postInit ⟨limit, state.2.lookup cursorName, filters⟩

end

end WebGuard.Pagination
