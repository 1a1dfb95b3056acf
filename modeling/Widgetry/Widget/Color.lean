import Widgetry.Number.Decimal
import Widgetry.Text.Basic

/-!
# Colours

A colour is a keyword, a hexadecimal colour, or one of the functions `rgb`, `rgba`, `hsl` and
`hsla` with three components and an optional fourth. The components stand between commas, or
between blanks with the fourth after a slash. Blanks around the whole and the case of ASCII
letters do not matter.
-/

namespace Widgetry.Color

/-- The named colours. -/
def names : List String := [
  "aliceblue", "antiquewhite", "aqua", "aquamarine", "azure", "beige", "bisque", "black",
  "blanchedalmond", "blue", "blueviolet", "brown", "burlywood", "cadetblue", "chartreuse",
  "chocolate", "coral", "cornflowerblue", "cornsilk", "crimson", "cyan", "darkblue", "darkcyan",
  "darkgoldenrod", "darkgray", "darkgreen", "darkgrey", "darkkhaki", "darkmagenta",
  "darkolivegreen", "darkorange", "darkorchid", "darkred", "darksalmon", "darkseagreen",
  "darkslateblue", "darkslategray", "darkslategrey", "darkturquoise", "darkviolet", "deeppink",
  "deepskyblue", "dimgray", "dimgrey", "dodgerblue", "firebrick", "floralwhite", "forestgreen",
  "fuchsia", "gainsboro", "ghostwhite", "gold", "goldenrod", "gray", "green", "greenyellow",
  "grey", "honeydew", "hotpink", "indianred", "indigo", "ivory", "khaki", "lavender",
  "lavenderblush", "lawngreen", "lemonchiffon", "lightblue", "lightcoral", "lightcyan",
  "lightgoldenrodyellow", "lightgray", "lightgreen", "lightgrey", "lightpink", "lightsalmon",
  "lightseagreen", "lightskyblue", "lightslategray", "lightslategrey", "lightsteelblue",
  "lightyellow", "lime", "limegreen", "linen", "magenta", "maroon", "mediumaquamarine",
  "mediumblue", "mediumorchid", "mediumpurple", "mediumseagreen", "mediumslateblue",
  "mediumspringgreen", "mediumturquoise", "mediumvioletred", "midnightblue", "mintcream",
  "mistyrose", "moccasin", "navajowhite", "navy", "oldlace", "olive", "olivedrab", "orange",
  "orangered", "orchid", "palegoldenrod", "palegreen", "paleturquoise", "palevioletred",
  "papayawhip", "peachpuff", "peru", "pink", "plum", "powderblue", "purple", "rebeccapurple",
  "red", "rosybrown", "royalblue", "saddlebrown", "salmon", "sandybrown", "seagreen",
  "seashell", "sienna", "silver", "skyblue", "slateblue", "slategray", "slategrey", "snow",
  "springgreen", "steelblue", "tan", "teal", "thistle", "tomato", "turquoise", "violet",
  "wheat", "white", "whitesmoke", "yellow", "yellowgreen"]

/-- A finite number (`number`). -/
def isNumber (cs : List Char) : Bool :=
  match Decimal.read? cs with
  | some x => x.toBinary64.isFinite
  | none => false

/-- A finite number with a percent sign (`percentage`). -/
def isPercentage (cs : List Char) : Bool :=
  match Text.before? ['%'] cs with
  | some cs => isNumber cs
  | none => false

/-- A number or a percentage (`number_or_percentage`). -/
def isAmount (cs : List Char) : Bool :=
  isNumber cs || isPercentage cs

/-- The units of angles. -/
def angleUnits : List String := ["deg", "grad", "rad", "turn"]

/-- A number with an optional unit of angle (`hue`). -/
def isHue (cs : List Char) : Bool :=
  match angleUnits.findSome? fun unit => Text.before? unit.toList cs with
  | some cs => isNumber cs
  | none => isNumber cs

/-- The components of a colour function: three, and an optional fourth. -/
structure Components where
  first : List Char
  second : List Char
  third : List Char
  alpha : Option (List Char)
  deriving Repr, DecidableEq

/-- Split the arguments of a colour function, at commas if there is one, otherwise at a slash and at
blanks (`components`). -/
def components? (args : List Char) : Option Components :=
  if args.contains ',' then
    match (Text.pieces (· = ',') args).map Text.trimmed with
    | [a, b, c] => some ⟨a, b, c, none⟩
    | [a, b, c, d] => some ⟨a, b, c, some d⟩
    | _ => none
  else
    let (main, alpha) := match Text.cutFirst? '/' args with
      | some (main, alpha) => (main, some (Text.trimmed alpha))
      | none => (args, none)
    match Text.words Text.isBlank main with
    | [a, b, c] => some ⟨a, b, c, alpha⟩
    | _ => none

/-- The arguments make a colour, given the test of the first component (`is_rgb` and `is_hsl`). -/
def isColorOf (first : List Char → Bool) (args : List Char) : Bool :=
  match components? args with
  | some c =>
      first c.first && isAmount c.second && isAmount c.third &&
        (match c.alpha with
          | some alpha => isAmount alpha
          | none => true)
  | none => false

/-- The hexadecimal digits of a colour number three, four, six or eight. -/
def isHex (cs : List Char) : Bool :=
  [3, 4, 6, 8].contains cs.length &&
    cs.all fun c => c.isDigit || ('a' ≤ c && c ≤ 'f')

/-- The call of a colour function: its name, and the text after the opening parenthesis. -/
def isCall (name rest : List Char) : Bool :=
  match Text.before? [')'] rest with
  | none => false
  | some args =>
      match String.ofList (Text.dropEndWhile Text.isBlank name) with
      | "rgb" => isColorOf isAmount args
      | "rgba" => isColorOf isAmount args
      | "hsl" => isColorOf isHue args
      | "hsla" => isColorOf isHue args
      | _ => false

/-- The text is a colour (`is_css_color`). -/
def isValid (s : String) : Bool :=
  let cs := (Text.trimmed s.toList).map Char.toLower
  match cs with
  | '#' :: digits => isHex digits
  | cs =>
      match Text.cutFirst? '(' cs with
      | some (name, rest) => isCall name rest
      | none =>
          let name := String.ofList cs
          name = "transparent" || name = "currentcolor" || names.contains name

end Widgetry.Color
