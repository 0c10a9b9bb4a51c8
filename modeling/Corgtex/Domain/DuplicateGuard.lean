import Corgtex.Library.JsString

/-!
# The duplicate guard

`duplicate-guard.ts`: before a work item is created, the guard looks for similar
ones. The search is a ranking over all items of a workspace and is left open here: a request names
the item that the search has led to. What an update of the existing item takes over from the request
is modelled, with `normalizeDuplicateGuardText` as a parameter.
-/

namespace Corgtex.Domain

/-- `haystack.includes(needle)`. -/
def includes (haystack needle : JsString) : Bool :=
  haystack.tails.any fun rest => needle.isPrefixOf rest

/-- `duplicateGuardMergeText` (line 177). -/
def duplicateGuardMergeText (normalizeDuplicateGuardText : JsString → JsString)
    (existing incoming : Option JsString) : Option JsString :=
  let current := (existing.map JsString.trim).getD []
  let next := (incoming.map JsString.trim).getD []
  if next = [] then current.orNull
  else if current = [] then some next
  else
    let normalizedCurrent := normalizeDuplicateGuardText current
    let normalizedNext := normalizeDuplicateGuardText next
    if normalizedCurrent = normalizedNext || includes normalizedCurrent normalizedNext then
      some current
    else if includes normalizedNext normalizedCurrent then
      some next
    else
      some (current ++ .lit "\n\n---\nAdditional duplicate upload context:\n" ++ next)

end Corgtex.Domain
