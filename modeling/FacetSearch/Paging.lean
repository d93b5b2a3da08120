/-!
# Paging

The window of a result that one page shows, and the number of pages. All numbers are signed
64-bit integers; the only product is cut off at the largest of them.
-/

namespace FacetSearch

/-- The largest signed 64-bit integer. -/
def maxInt64 : Int := 0x7FFFFFFFFFFFFFFF

/-- A page number, counted from one, and the number of rows on a page. -/
structure PageWindow where
  page : Int
  size : Int
deriving DecidableEq, Repr

namespace PageWindow

/-- The window with both numbers raised to at least one. -/
def clamp (page size : Int) : PageWindow := ⟨max page 1, max size 1⟩

/-- The number of rows before the window. -/
def offset (w : PageWindow) : Int := min ((w.page - 1) * w.size) maxInt64

end PageWindow

/-- The sizes of pages that a search allows. -/
structure PageSizes where
  default : Int
  max : Int

/-- The page and size as a caller asks for them. -/
structure PageRequest where
  page : Option Int := none
  size : Option Int := none
deriving DecidableEq, Repr

/-- The window for a request: a missing or unusable number takes its default, and a size that
is too large is cut down. -/
def PageRequest.window (r : PageRequest) (sizes : PageSizes) : PageWindow :=
  let page := match r.page with
    | some p => if 1 ≤ p then p else 1
    | none => 1
  let size := match r.size with
    | some s => if 0 < s then min s sizes.max else sizes.default
    | none => sizes.default
  .clamp page size

/-- The number of pages that `count` rows fill, none if there are no rows. The sum of `count` and
`size` must fit into 64 bits. -/
def totalPages (count size : Int) : Int :=
  if count ≤ 0 ∨ size ≤ 0 then 0 else (count + size - 1) / size

end FacetSearch
