import ViewCases.Modifier
import ViewCases.Text.Casing

/-! The categories of modifiers. A name decides its category: first by sets of
names, then by prefixes, both without regard to case; every other name belongs to
`other`. -/
namespace ViewCases

inductive Category
  | layout
  | appearance
  | text
  | interaction
  | animation
  | accessibility
  | environment
  | other
  deriving DecidableEq, Repr

namespace Category

def all : List Category :=
  [.layout, .appearance, .text, .interaction, .animation, .accessibility, .environment, .other]

def label : Category → Text
  | .layout => "Layout"
  | .appearance => "Appearance"
  | .text => "Text"
  | .interaction => "Interaction"
  | .animation => "Animation"
  | .accessibility => "Accessibility"
  | .environment => "Environment"
  | .other => "Other"

def names : Category → List Text
  | .layout => ["frame", "padding", "offset", "position", "aspectratio", "fixedsize",
      "layoutpriority", "ignoressafearea", "edgesignoringsafearea", "safeareainset",
      "alignmentguide", "zindex", "containerrelativeframe", "scaledtofit", "scaledtofill"]
  | .appearance => ["background", "foregroundcolor", "foregroundstyle", "opacity", "tint",
      "overlay", "border", "cornerradius", "clipshape", "clipped", "shadow", "blur",
      "brightness", "contrast", "saturation", "grayscale", "hidden", "colorinvert",
      "colormultiply", "huerotation", "blendmode", "mask", "accentcolor",
      "preferredcolorscheme"]
  | .text => ["font", "bold", "italic", "fontweight", "fontdesign", "fontwidth", "linelimit",
      "linespacing", "multilinetextalignment", "kerning", "tracking", "underline",
      "strikethrough", "textcase", "baselineoffset", "minimumscalefactor", "truncationmode",
      "allowstightening", "textselection", "monospaced", "monospaceddigit"]
  | .interaction => ["ontapgesture", "onlongpressgesture", "gesture", "simultaneousgesture",
      "highprioritygesture", "disabled", "allowshittesting", "contentshape", "onhover",
      "onsubmit", "focused", "focusable", "ondrag", "ondrop", "onappear", "ondisappear",
      "onchange", "refreshable", "swipeactions", "contextmenu", "keyboardshortcut"]
  | .animation => ["animation", "transition", "transaction", "matchedgeometryeffect",
      "contenttransition", "phaseanimator", "keyframeanimator", "scaleeffect",
      "rotationeffect", "rotation3deffect"]
  | .accessibility | .environment | .other => []

/-- The prefix that puts a name into the category, in lower case. -/
def lead? : Category → Option Text
  | .accessibility => some "accessibility"
  | .environment => some "environment"
  | _ => none

def hasName (c : Category) (lowered : Text) : Bool :=
  c.names.contains lowered

def hasLead (c : Category) (lowered : Text) : Bool :=
  match c.lead? with
  | some lead => lead.isPrefixOf lowered
  | none => false

def classify (name : Text) : Category :=
  let lowered := Text.lower name
  ((all.find? (·.hasName lowered)).or (all.find? (·.hasLead lowered))).getD .other

def group (c : Category) (ms : List Modifier) : List Modifier :=
  ms.filter fun m => classify m.name = c

def categorize (ms : List Modifier) : List (Category × List Modifier) :=
  (all.map fun c => (c, c.group ms)).filter fun entry => !entry.2.isEmpty

theorem mem_all (c : Category) : c ∈ all := by
  cases c <;> decide

end Category
end ViewCases
