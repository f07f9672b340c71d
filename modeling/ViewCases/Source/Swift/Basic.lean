import ViewCases.Source.Rule

/-! What the rules of the Swift grammar are written with: the tokens that are not fixed
texts, the levels of precedence, and parts that many rules share. -/
namespace ViewCases.Source.Swift
open Pattern

/-! ## Tokens -/

def hexDigits : Charset := Charset.digits.union (Charset.ofString "abcdefABCDEF")

def decimals : Pattern := number Charset.digits
def hexadecimals : Pattern := number hexDigits

/-- A letter of a name may be followed by a skin tone or by the request for an emoji
form. -/
def nameLetterEnd : Pattern :=
  optional (any [Charset.emojiModifiers,
    all [Charset.ofClasses [Charset.variationClass],
      optional (Charset.ofClasses [Charset.keycapClass])]])

def namePattern : Pattern :=
  all [Charset.nameStart, nameLetterEnd, star (all [Charset.nameContinue, nameLetterEnd])]

def plainName : Token := .ofPattern "plainName" namePattern

def quotedName : Token :=
  .ofPattern "quotedName" (all ["\x60", star (Charset.except "\r\n\x60 "), "\x60"])

def dollarNumber : Token :=
  .ofPattern "dollarNumber" (all ["$", plus Charset.digits])

def dollarName : Token := .ofPattern "dollarName" (all ["$", namePattern])

def restOfLine : Pattern := star (Charset.except "\r\n")

def shebangText : Token := .ofPattern "shebangText" restOfLine

def lineComment : Token :=
  (Token.ofPattern "lineComment" (all ["//", star (Charset.except "\n")])).withRank (-3)

def exponent (marker : String) : Pattern :=
  all [Charset.ofString marker, optional (Charset.ofString "+-"), decimals]

def realNumber : Token :=
  .ofPattern "realNumber" (any [
    all [decimals, exponent "eE"],
    all [optional decimals, ".", decimals, optional (exponent "eE")],
    all ["0x", hexadecimals, optional (all [".", hexadecimals]), exponent "pP"]])

def integerNumber : Token :=
  .ofPattern "integerNumber" (all [optional (Charset.range '1' '9'), decimals])

def hexNumber : Token :=
  .ofPattern "hexNumber" (all ["0", Charset.ofString "xX", hexadecimals])

def octalNumber : Token :=
  .ofPattern "octalNumber" (all ["0", Charset.ofString "oO", number (Charset.range '0' '7')])

def binaryNumber : Token :=
  .ofPattern "binaryNumber" (all ["0", Charset.ofString "bB", number (Charset.range '0' '1')])

def stringText : Pattern := plus (Charset.except "\\\"")

def lineText : Token := .ofPattern "lineText" stringText
def blockText : Token := .ofPattern "blockText" stringText

def scalarDigits : Token :=
  .ofPattern "scalarDigits" (all ["\x7b", plus hexDigits, "\x7d"])

def rawInterpolation : Token :=
  .ofPattern "rawInterpolation" (all ["\\", star (Charset.ofString "#"), "("])

def escapedCharacter : Token :=
  .ofPattern "escapedCharacter" (all ["\\", Charset.ofString "0\\tnr\"'\n"])

/-- A slash that does not end an extended regular expression. -/
def innerSlash : Pattern := all ["/", Charset.except "#"]

def extendedRegex : Token :=
  .ofPattern "extendedRegex" (all ["/", plus (any [innerSlash, Charset.except "\n"]), "/#"])

def blockRegexStart : Token := .ofPattern "blockRegexStart" (text "/\n")

def blockRegexBody : Token :=
  .ofPattern "blockRegexBody" (all [star (any [innerSlash, Charset.except "/"]), "\n/#"])

def slashStar : Token :=
  .ofPattern "slashStar" (all [plus (Charset.ofString "/"), plus (Charset.ofString "*")])

def labelName : Token :=
  let start := Charset.asciiLetters.union (Charset.ofString "_")
  .ofPattern "labelName" (all [start, star (start.union Charset.digits), ":"])

def errorText : Token := .ofPattern "errorText" (all ["error", restOfLine])
def warningText : Token := .ofPattern "warningText" (all ["warning", restOfLine])
def sourceLocationText : Token :=
  .ofPattern "sourceLocationText" (all ["sourceLocation", restOfLine])

/-! ## Precedence -/

namespace Level

def multiplication : Int := 11
def addition : Int := 10
def infixOperations : Int := 9
def nilCoalescing : Int := 8
def check : Int := 7
def prefixOperations : Int := 7
def postfixOperations : Int := 6
def equality : Int := 5
def conjunction : Int := 4
def disjunction : Int := 3
def block : Int := 2
def loop : Int := 1
def keyPath : Int := 1
def parameterPack : Int := 1
def controlTransfer : Int := 0
def asOperator : Int := -1
def tuple : Int := -1
def conditional : Int := -1
def switchBlock : Int := -1
def doBlock : Int := -1
def fullyOpenRange : Int := -1
def range : Int := -1
def navigation : Int := -1
def expression : Int := -1
def typeName : Int := -1
def call : Int := -2
def ternary : Int := -2
def attempt : Int := -2
def callSuffix : Int := -2
def rangeSuffix : Int := -2
def rightOperand : Int := -2
def awaiting : Int := -2
def assignment : Int := -3
def comment : Int := -3
def closure : Int := -3
def regex : Int := -4

end Level

/-- A regular expression on one line. It neither begins nor ends with white space, so that
most divisions are none. -/
def lineRegex : Token :=
  (Token.ofPattern "lineRegex" (all ["/", optional (Charset.except " \t\n"),
    star (Charset.except "/\n"), Charset.except " \t\n/", "/"])).withRank Level.regex

/-! ## Shared parts -/

open Rule

def simpleName : Rule := name "simpleIdentifier"
def typeName : Rule := simpleName.shownAs "typeIdentifier"
def expression : Rule := name "expression"

/-- What may stand behind a binary operator. -/
def operand : Rule := name "rightOperand"

def trailingClosures : Rule := name "trailingClosures"

def constructorArguments : Rule := (name "constructorValueArguments").shownAs "valueArguments"

def exprPattern : Rule := (name "bindingPatternWithExpr").shownAs "pattern"

/-- What may stand between the parameters of a function and its result. -/
def effects : List Rule :=
  [maybe (name "asyncKeyword"), maybe (anyNamed ["throwsClause", "throws"])]

def returnClause : Rule :=
  maybe (seq [name "arrowOperator", inRole (name "possiblyImplicitlyUnwrappedType")])

/-- What may stand between the name of a type and its body. -/
def typeTail : List Rule :=
  [maybe (name "typeParameters"), maybe (seq [":", name "inheritanceSpecifiers"]),
   maybe (name "typeConstraints")]

def localModifiers : Rule := maybe (name "locallyPermittedModifiers")

def condition : Rule := name "compilationCondition"

end ViewCases.Source.Swift
