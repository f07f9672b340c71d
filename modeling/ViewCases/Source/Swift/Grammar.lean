import ViewCases.Source.Swift.Literals
import ViewCases.Source.Swift.Types
import ViewCases.Source.Swift.Expressions
import ViewCases.Source.Swift.Statements
import ViewCases.Source.Swift.Declarations
import ViewCases.Source.Swift.Modifiers

/-! The grammar of Swift. -/
namespace ViewCases.Source.Swift

/-- All rules; the first is that of a whole source. The order settles the few choices that
precedence leaves open. -/
def definitions : List Definition :=
  literals ++ types ++ expressions ++ statements ++ declarations ++ modifiers

/-- The rule whose tokens may stand between any two tokens. The other such token is the
block comment. -/
def commentRule : String := "comment"

end ViewCases.Source.Swift
