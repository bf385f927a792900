import FlagBoard.Text.Blank

/-!
The theme of the pages, and the context that every part of a page starts from.
-/

namespace FlagBoard

inductive Theme
  | light
  | dark
  deriving DecidableEq, Repr

namespace Theme

/-- The theme for a stored preference. What is missing or not known is light. -/
def ofStored (value : Option String) : Theme :=
  if value.map Text.trimmed = some "dark" then .dark else .light

def name : Theme → String
  | .light => "light"
  | .dark => "dark"

def toggled : Theme → Theme
  | .light => .dark
  | .dark => .light

end Theme

structure Context where
  theme : Theme
  deriving DecidableEq, Repr

namespace Context

def ofStored (value : Option String) : Context := ⟨.ofStored value⟩

def withoutStorage : Context := ⟨.light⟩

end Context

end FlagBoard
