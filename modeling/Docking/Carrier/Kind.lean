import Docking.Desktop.Window

namespace Docking

inductive CarrierKind
  /-- Its window is moved along with the pointer. -/
  | generic
  | compositor
  /-- A picture of it takes the place of the pointer. -/
  | imageCursor
deriving DecidableEq, Inhabited

namespace CarrierKind

def text : CarrierKind → String
  | .generic => "generic"
  | .compositor => "compositor"
  | .imageCursor => "image-cursor"

def name : CarrierKind → String
  | .generic => "Generic"
  | .compositor => "Compositor"
  | .imageCursor => "ImageCursor"

def all : List CarrierKind := [.generic, .compositor, .imageCursor]

def ofName? (name : String) : Option CarrierKind :=
  all.find? fun kind => kind.name = name

/-- The forced kind, or else the best one the windowing system can support. -/
def choose (forced : Option CarrierKind) (capabilities : Capabilities) : CarrierKind :=
  match forced with
  | some kind => kind
  | none =>
      if capabilities.reposition then .generic
      else if capabilities.systemDrag then .compositor
      else .imageCursor

end CarrierKind
end Docking
