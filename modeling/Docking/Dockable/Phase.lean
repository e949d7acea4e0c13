namespace Docking

inductive Phase
  /-- Free: without a parent, possibly alone in a window of its own. -/
  | undocked
  | dragging
  /-- Being dragged over a target that accepts it. -/
  | hovering
  | docked
deriving DecidableEq, Inhabited

namespace Phase

def isInFlight : Phase → Bool
  | .dragging | .hovering => true
  | .undocked | .docked => false

def text : Phase → String
  | .undocked => "undocked"
  | .dragging => "dragging"
  | .hovering => "over a target"
  | .docked => "docked"

def name : Phase → String
  | .undocked => "Undocked"
  | .dragging => "Dragging"
  | .hovering => "Dock"
  | .docked => "Docked"

def all : List Phase := [.undocked, .dragging, .hovering, .docked]

def ofName? (name : String) : Option Phase :=
  all.find? fun phase => phase.name = name

end Phase
end Docking
