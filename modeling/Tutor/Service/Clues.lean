import Tutor.Settings.Store
import Tutor.Shell.Execute
import Tutor.Shell.Quote

namespace Tutor.Service

/-!
# Clues and the background

* `registerClue` remembers a clue once, `Settings.getClues` lists all;
* `setBackground` changes the background of the desktop.
-/

/-- Remember a clue unless it is known already. -/
def registerClue (kind content : String) : Act Unit := do
  if !clueKinds.contains kind then Act.refuse (.unknownClue kind)
  let clues ← Settings.getClues
  if !clues.contains (content, kind) then Settings.setClues (clues ++ [(content, kind)])

/-- The command that changes the background. -/
def backgroundCommand (uri : String) : String :=
  s!"gsettings set org.gnome.desktop.background picture-uri {Shell.quote uri}"

/-- Change the background of the desktop. -/
def setBackground (uri : String) : Act Unit := do
  let _ ← Shell.execute (backgroundCommand uri) []
  Act.log .info .service s!"Background set to {uri}"

end Tutor.Service
