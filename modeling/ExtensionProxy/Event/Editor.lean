/-!
# Editor notifications

The editor of a document sends fine-grained notifications, each with a numeric code.  Thirty codes
are known, and each has a signal of its own; a notification with another code is dropped.  Only the
code is interpreted; the other fields pass through to whoever observes the signal.
-/

set_option autoImplicit false

namespace ExtensionProxy

/-- The editor notifications that have a signal. -/
inductive EditorKind where
  /-- Text needs styling. -/
  | styleNeeded
  /-- A character was typed. -/
  | charAdded
  | savePointReached
  | savePointLeft
  /-- A read-only document was to be changed. -/
  | modifyAttempt
  /-- A key was pressed. -/
  | key
  /-- The text was double-clicked. -/
  | doubleClick
  /-- Content, styling or selection changed. -/
  | updateView
  /-- The text was changed. -/
  | modified
  /-- A recordable action ran. -/
  | macroRecord
  | marginClick
  /-- Hidden lines need showing. -/
  | needShown
  /-- Painting finished. -/
  | painted
  /-- An item of a user list was selected. -/
  | userListSelection
  /-- A link was dropped on the editor. -/
  | linkDropped
  /-- The pointer came to rest. -/
  | dwellStart
  /-- The pointer moved on. -/
  | dwellEnd
  /-- The zoom level changed. -/
  | zoom
  | hotSpotClick
  | hotSpotDoubleClick
  | callTipClick
  | completionSelection
  | indicatorClick
  /-- The click on an indicator ended. -/
  | indicatorRelease
  | completionCancelled
  /-- A character was deleted during completion. -/
  | completionCharDeleted
  /-- The click on a hot spot ended. -/
  | hotSpotReleaseClick
  /-- The editor gained focus. -/
  | focusIn
  /-- The editor lost focus. -/
  | focusOut
  /-- Completion inserted its text. -/
  | completionCompleted
  deriving DecidableEq, Repr

namespace EditorKind

/-- All kinds, in the order of their codes. -/
def all : List EditorKind :=
  [.styleNeeded, .charAdded, .savePointReached, .savePointLeft, .modifyAttempt, .key, .doubleClick,
   .updateView, .modified, .macroRecord, .marginClick, .needShown, .painted, .userListSelection,
   .linkDropped, .dwellStart, .dwellEnd, .zoom, .hotSpotClick, .hotSpotDoubleClick, .callTipClick,
   .completionSelection, .indicatorClick, .indicatorRelease, .completionCancelled,
   .completionCharDeleted, .hotSpotReleaseClick, .focusIn, .focusOut, .completionCompleted]

/-- The host's code; the codes run from 2000 to 2030, and 2012 is not in use. -/
def code : EditorKind → Nat
  | .styleNeeded => 2000
  | .charAdded => 2001
  | .savePointReached => 2002
  | .savePointLeft => 2003
  | .modifyAttempt => 2004
  | .key => 2005
  | .doubleClick => 2006
  | .updateView => 2007
  | .modified => 2008
  | .macroRecord => 2009
  | .marginClick => 2010
  | .needShown => 2011
  | .painted => 2013
  | .userListSelection => 2014
  | .linkDropped => 2015
  | .dwellStart => 2016
  | .dwellEnd => 2017
  | .zoom => 2018
  | .hotSpotClick => 2019
  | .hotSpotDoubleClick => 2020
  | .callTipClick => 2021
  | .completionSelection => 2022
  | .indicatorClick => 2023
  | .indicatorRelease => 2024
  | .completionCancelled => 2025
  | .completionCharDeleted => 2026
  | .hotSpotReleaseClick => 2027
  | .focusIn => 2028
  | .focusOut => 2029
  | .completionCompleted => 2030

/-- The name of the signal. -/
def name : EditorKind → String
  | .styleNeeded => "style-needed"
  | .charAdded => "char-added"
  | .savePointReached => "save-point-reached"
  | .savePointLeft => "save-point-left"
  | .modifyAttempt => "modify-attempt-ro"
  | .key => "key"
  | .doubleClick => "double-click"
  | .updateView => "update-ui"
  | .modified => "modified"
  | .macroRecord => "macro-record"
  | .marginClick => "margin-click"
  | .needShown => "need-shown"
  | .painted => "painted"
  | .userListSelection => "user-list-selection"
  | .linkDropped => "uri-dropped"
  | .dwellStart => "dwell-start"
  | .dwellEnd => "dwell-end"
  | .zoom => "zoom"
  | .hotSpotClick => "hot-spot-click"
  | .hotSpotDoubleClick => "hot-spot-double-click"
  | .callTipClick => "call-tip-click"
  | .completionSelection => "auto-c-selection"
  | .indicatorClick => "indicator-click"
  | .indicatorRelease => "indicator-release"
  | .completionCancelled => "auto-c-cancelled"
  | .completionCharDeleted => "auto-c-char-deleted"
  | .hotSpotReleaseClick => "hot-spot-release-click"
  | .focusIn => "focus-in"
  | .focusOut => "focus-out"
  | .completionCompleted => "auto-c-completed"

/-- The kind of a code, if the code is known. -/
def ofCode? (code : Nat) : Option EditorKind := all.find? fun kind => kind.code == code

/-- The kind of a signal name. -/
def ofName? (name : String) : Option EditorKind := all.find? fun kind => kind.name == name

/-- The place of a kind among all. -/
def index (kind : EditorKind) : Nat := all.idxOf kind

theorem mem_all (kind : EditorKind) : kind ∈ all := by
  cases kind <;> decide

end EditorKind

/-- A notification as the host sends it. -/
structure EditorNote where
  /-- The code, which says what happened. -/
  code : Nat
  /-- The place in the text. -/
  position : Int := 0
  /-- The character typed. -/
  ch : Nat := 0
  /-- The modifier keys held. -/
  modifiers : Nat := 0
  /-- The flags of a change. -/
  modificationType : Nat := 0
  line : Int := 0
  /-- The lines that a change added. -/
  linesAdded : Int := 0
  /-- The margin clicked. -/
  margin : Int := 0
  /-- The text selected or dropped. -/
  text : Option String := none
  deriving DecidableEq, Repr, Inhabited

/-- The kind of a notification, if its code is known. -/
def EditorNote.kind (note : EditorNote) : Option EditorKind := EditorKind.ofCode? note.code

end ExtensionProxy
