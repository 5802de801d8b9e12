/-
**Marks.** Characters that attach to the one before them.

* `isNonspacing`, `isMark` — marks without room of their own, and marks of any kind.
* `isExtending` — whatever belongs to the character before it when a text is shown.
-/

import MessageBus.Text.MarkTable

namespace MessageBus.Text

/-- Marks that take no room of their own. -/
def isNonspacing (c : Char) : Bool :=
  inRanges nonspacingRanges c

/-- Marks of any kind. -/
def isMark (c : Char) : Bool :=
  isNonspacing c || inRanges spacingRanges c

/-- Characters that belong to the one before them when a text is shown. -/
def isExtending (c : Char) : Bool :=
  isNonspacing c || inRanges extendingRanges c

end MessageBus.Text
