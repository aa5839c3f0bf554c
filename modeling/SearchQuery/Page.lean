import SearchQuery.Json.Printer
import SearchQuery.Record

/-!
# Pages

A stretch of the records that a search finds, with their number over all pages.
-/

namespace SearchQuery

structure Page (α : Type) where
  items : List α
  total : UInt64
  perPage : UInt64
  currentPage : UInt64

def defaultPerPage : UInt64 := 15

namespace Page

variable {α : Type}

/-- The number of the last page, at least one. -/
def lastPage (p : Page α) : UInt64 :=
  if p.perPage = 0 then 1
  else
    let pages := p.total / p.perPage + if p.total % p.perPage = 0 then 0 else 1
    max pages 1

def hasMore (p : Page α) : Bool :=
  p.currentPage < p.lastPage

def isEmpty (p : Page α) : Bool :=
  p.items.isEmpty

def text [Record α] (p : Page α) : String :=
  (Json.object [("items", .array (p.items.map Record.inOrder)), ("total", .ofWord p.total),
    ("per_page", .ofWord p.perPage), ("current_page", .ofWord p.currentPage)]).text

end Page

end SearchQuery
