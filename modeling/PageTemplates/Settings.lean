/-!
# Settings

The plain settings of a site. Whatever is code, such as formats and filters, is registered with the site instead.
-/

namespace PageTemplates

/-- The settings of a site. -/
structure Settings where
  debugMode : Bool := false
  checkForModifiedPages : Bool := false
  checkIntervalSeconds : Option Nat := none
  defaultLayoutPage : String := "_layout"
  indexPage : String := "index"
  tempDirectory : String := "__tmp"
  culture : String := "en-US"
  maxPartialDepth : Nat := 50
  maxNestedEvaluationDepth : Nat := 32
  deriving DecidableEq, Inhabited

namespace Settings

/-- Whether loaded pages are checked for changes of their files. -/
def checksFreshness (s : Settings) : Bool :=
  s.debugMode || s.checkForModifiedPages

end Settings

/-- What a value filter knows besides its value and arguments: the settings of the site and the text of the current time. -/
structure Surroundings where
  settings : Settings
  now : String
  deriving DecidableEq, Inhabited

end PageTemplates
