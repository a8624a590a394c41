import Karabiner.OutputKeyCode
import Karabiner.FlagStatus

set_option autoImplicit false

/- The button counters of the kernel extension. The status message that the lock
operations refresh is not part of this model. -/
namespace Karabiner

namespace Buttons

def ofButton (button : PointingButton) : Buttons := ⟨button.value⟩

def add (buttons other : Buttons) : Buttons := ⟨buttons.value ||| other.value⟩

def remove (buttons other : Buttons) : Buttons := ⟨buttons.value &&& ~~~other.value⟩

def isNONE (buttons : Buttons) : Bool := buttons.value == 0

def isOn (buttons other : Buttons) : Bool := buttons.value &&& other.value == other.value

end Buttons

structure ButtonStatus.Item where
  button : PointingButton
  count : Int := 0
  lockCount : Int := 0
  deriving DecidableEq, Repr

structure ButtonStatus where
  item : List ButtonStatus.Item
  deriving DecidableEq, Repr

namespace ButtonStatus

def MAXNUM : Nat := 32

namespace Item

def set (button : PointingButton) (isbuttondown : Bool) (it : Item) : Item :=
  if it.button ≠ button then it
  else if isbuttondown then { it with count := it.count + 1 }
  else { it with count := it.count - 1 }

/-- The lock counter outlives a reset. -/
def reset (it : Item) : Item := { it with count := 0 }

def makeButtons (it : Item) : PointingButton :=
  if it.count + it.lockCount > 0 then it.button else .NONE

def increase (it : Item) : Item := { it with count := it.count + 1 }
def decrease (it : Item) : Item := { it with count := it.count - 1 }
def lockIncrease (it : Item) : Item := { it with lockCount := 1 }
def lockDecrease (it : Item) : Item := { it with lockCount := 0 }
def lockToggle (it : Item) : Item := { it with lockCount := FlagStatus.Item.toggle it.lockCount }

end Item

def initialized : ButtonStatus :=
  ⟨(List.range MAXNUM).map fun i => { button := ⟨1#32 <<< i⟩ }⟩

def onItems (f : Item → Item) (status : ButtonStatus) : ButtonStatus := ⟨status.item.map f⟩

def set (button : PointingButton) (isbuttondown : Bool) (status : ButtonStatus) : ButtonStatus :=
  status.onItems (Item.set button isbuttondown)

def reset (status : ButtonStatus) : ButtonStatus := status.onItems Item.reset

def makeButtons (status : ButtonStatus) : Buttons :=
  status.item.foldl (fun buttons it => buttons.add (.ofButton it.makeButtons)) ⟨0⟩

def getLockedButtons (status : ButtonStatus) : Buttons :=
  status.item.foldl
    (fun buttons it => if it.lockCount ≠ 0 then buttons.add (.ofButton it.button)
      else buttons) ⟨0⟩

/-- FOREACH_TO_BUTTONS. -/
def foreachToButtons (method : Item → Item) (buttons : Buttons) (status : ButtonStatus) :
    ButtonStatus :=
  status.onItems fun it => if buttons.isOn (.ofButton it.button) then method it else it

def increase (buttons : Buttons) (status : ButtonStatus) : ButtonStatus :=
  status.foreachToButtons Item.increase buttons

def decrease (buttons : Buttons) (status : ButtonStatus) : ButtonStatus :=
  status.foreachToButtons Item.decrease buttons

def lockIncrease (buttons : Buttons) (status : ButtonStatus) : ButtonStatus :=
  status.foreachToButtons Item.lockIncrease buttons

def lockDecrease (buttons : Buttons) (status : ButtonStatus) : ButtonStatus :=
  status.foreachToButtons Item.lockDecrease buttons

def lockToggle (buttons : Buttons) (status : ButtonStatus) : ButtonStatus :=
  status.foreachToButtons Item.lockToggle buttons

def lockClear (status : ButtonStatus) : ButtonStatus :=
  status.lockDecrease status.getLockedButtons

end ButtonStatus

end Karabiner
