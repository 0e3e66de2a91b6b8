/-
Scrolling.

A page that is left has its scroll position recorded, and going back to it restores the position.
Positions are whole numbers of pixels. The scroll store remembers positions by URL, but only of the
URLs recorded last; reading a position for use takes it out of the store.
-/
import Wayfinder.Log
import Wayfinder.RecentMap
import Wayfinder.Text.Layout

namespace Wayfinder

/-- A scroll position. -/
structure ScrollPosition where
  /-- How far to the right. -/
  x : Int
  /-- How far down. -/
  y : Int
  deriving DecidableEq, Repr, Inhabited

namespace ScrollPosition

/-- The upper left corner. -/
def top : ScrollPosition := ⟨0, 0⟩

/-- A coordinate, written with one decimal. -/
def describeCoordinate (n : Int) : String := toString n ++ ".0"

/-- The text of a position. -/
def describe (p : ScrollPosition) : String :=
  Text.record "ScrollPosition" [("x", describeCoordinate p.x), ("y", describeCoordinate p.y)]

end ScrollPosition

/-- The surface that pages are shown on. -/
structure Viewport where
  /-- Where it is scrolled to. -/
  position : ScrollPosition := .top
  /-- How often it was told where to scroll. -/
  scrolls : Nat := 0
  deriving DecidableEq, Repr, Inhabited

/-- Scroll to a position. -/
def Viewport.scrollTo (v : Viewport) (p : ScrollPosition) : Viewport :=
  { position := p, scrolls := v.scrolls + 1 }

/-- The scroll positions of the URLs recorded last. -/
structure ScrollStore where
  /-- The positions. -/
  positions : RecentMap ScrollPosition

namespace ScrollStore

/-- A store without positions. -/
def empty (capacity : Nat) : ScrollStore := ⟨.empty capacity⟩

/-- Record the position of a URL. -/
def record (s : ScrollStore) (url : String) (p : ScrollPosition) : ScrollStore :=
  ⟨s.positions.put url p⟩

/-- What is reported when a position is recorded. -/
def recordLog (url : String) (p : ScrollPosition) : List LogRecord :=
  let shown := p.describe
  [.trace s!"Recording scroll {shown} for '{url}'"]

/-- The position of a URL. -/
def peek? (s : ScrollStore) (url : String) : Option ScrollPosition := s.positions.peek? url

/-- The position of a URL, taken out of the store. -/
def take (s : ScrollStore) (url : String) : ScrollStore × Option ScrollPosition :=
  (⟨s.positions.erase url⟩, s.peek? url)

/-- The number of positions. -/
def size (s : ScrollStore) : Nat := s.positions.size

/-- Forget all positions. -/
def clear (s : ScrollStore) : ScrollStore := ⟨s.positions.clear⟩

end ScrollStore

end Wayfinder
