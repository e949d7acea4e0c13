namespace Docking

/-! Names of widgets and of top-level windows, with the text each has in messages. -/

structure NodeId where
  index : Nat
deriving DecidableEq, Inhabited, Hashable

def NodeId.text (node : NodeId) : String :=
  "NodeId(" ++ toString node.index ++ ")"

structure WindowId where
  number : Nat
deriving DecidableEq, Inhabited, Hashable

def WindowId.text (window : WindowId) : String :=
  "window#" ++ toString window.number

end Docking
