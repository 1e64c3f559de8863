import MessageKeys.Json.Basic

/-!
Pages of long lists.

A page begins after a number of items and holds at most `limit` of them. A request may leave both
open; each kind of list has a limit for that case and a greatest limit.
-/
namespace MessageKeys.Agent

/-- Which page is asked for. -/
structure PageRequest where
  limit? : Option Nat
  offset? : Option Nat
  deriving DecidableEq, Repr

/-- How large the pages of a kind of list are. -/
structure PageSize where
  usual : Nat
  greatest : Nat
  deriving DecidableEq, Repr

/-- A part of a list. -/
structure Page (α : Type) where
  items : List α
  offset : Nat
  limit : Nat
  /-- Whether the list goes on after the page. -/
  hasMore : Bool
  deriving DecidableEq, Repr

namespace Page

/-- At most `limit` items after the first `offset`. -/
def cut {α : Type} (items : List α) (offset limit : Nat) : Page α :=
  let page := (items.drop offset).take limit
  ⟨page, offset, limit, offset + page.length < items.length⟩

/-- The page of a list that a request asks for. -/
def ofRequest {α : Type} (size : PageSize) (request : PageRequest) (items : List α) : Page α :=
  cut items (request.offset?.getD 0) (min (request.limit?.getD size.usual) size.greatest)

/-- Where a page stands in its list. -/
def place {α : Type} (page : Page α) : Json :=
  .object [("offset".toList, .ofNat page.offset), ("limit".toList, .ofNat page.limit),
    ("hasMore".toList, .bool page.hasMore)]

end Page

end MessageKeys.Agent
