import PipelineLint.Number.Numeral

set_option autoImplicit false

namespace PipelineLint

def colorNames : List String := [
  "black", "red", "green", "yellow", "blue", "magenta", "cyan", "white", "bright_black",
  "bright_red", "bright_green", "bright_yellow", "bright_blue", "bright_magenta", "bright_cyan",
  "bright_white", "grey0", "gray0", "navy_blue", "dark_blue", "blue3", "blue1", "dark_green",
  "deep_sky_blue4", "dodger_blue3", "dodger_blue2", "green4", "spring_green4", "turquoise4",
  "deep_sky_blue3", "dodger_blue1", "green3", "spring_green3", "dark_cyan", "light_sea_green",
  "deep_sky_blue2", "deep_sky_blue1", "spring_green2", "cyan3", "dark_turquoise", "turquoise2",
  "green1", "spring_green1", "medium_spring_green", "cyan2", "cyan1", "dark_red", "deep_pink4",
  "purple4", "purple3", "blue_violet", "orange4", "grey37", "gray37", "medium_purple4",
  "slate_blue3", "royal_blue1", "chartreuse4", "dark_sea_green4", "pale_turquoise4",
  "steel_blue", "steel_blue3", "cornflower_blue", "chartreuse3", "cadet_blue", "sky_blue3",
  "steel_blue1", "pale_green3", "sea_green3", "aquamarine3", "medium_turquoise", "chartreuse2",
  "sea_green2", "sea_green1", "aquamarine1", "dark_slate_gray2", "dark_magenta", "dark_violet",
  "purple", "light_pink4", "plum4", "medium_purple3", "slate_blue1", "yellow4", "wheat4",
  "grey53", "gray53", "light_slate_grey", "light_slate_gray", "medium_purple",
  "light_slate_blue", "dark_olive_green3", "dark_sea_green", "light_sky_blue3", "sky_blue2",
  "dark_sea_green3", "dark_slate_gray3", "sky_blue1", "chartreuse1", "light_green",
  "pale_green1", "dark_slate_gray1", "red3", "medium_violet_red", "magenta3", "dark_orange3",
  "indian_red", "hot_pink3", "medium_orchid3", "medium_orchid", "medium_purple2",
  "dark_goldenrod", "light_salmon3", "rosy_brown", "grey63", "gray63", "medium_purple1", "gold3",
  "dark_khaki", "navajo_white3", "grey69", "gray69", "light_steel_blue3", "light_steel_blue",
  "yellow3", "dark_sea_green2", "light_cyan3", "light_sky_blue1", "green_yellow",
  "dark_olive_green2", "dark_sea_green1", "pale_turquoise1", "deep_pink3", "magenta2",
  "hot_pink2", "orchid", "medium_orchid1", "orange3", "light_pink3", "pink3", "plum3", "violet",
  "light_goldenrod3", "tan", "misty_rose3", "thistle3", "plum2", "khaki3", "light_goldenrod2",
  "light_yellow3", "grey84", "gray84", "light_steel_blue1", "yellow2", "dark_olive_green1",
  "honeydew2", "light_cyan1", "red1", "deep_pink2", "deep_pink1", "magenta1", "orange_red1",
  "indian_red1", "hot_pink", "dark_orange", "salmon1", "light_coral", "pale_violet_red1",
  "orchid2", "orchid1", "orange1", "sandy_brown", "light_salmon1", "light_pink1", "pink1",
  "plum1", "gold1", "navajo_white1", "misty_rose1", "thistle1", "yellow1", "light_goldenrod1",
  "khaki1", "wheat1", "cornsilk1", "grey100", "gray100", "grey3", "gray3", "grey7", "gray7",
  "grey11", "gray11", "grey15", "gray15", "grey19", "gray19", "grey23", "gray23", "grey27",
  "gray27", "grey30", "gray30", "grey35", "gray35", "grey39", "gray39", "grey42", "gray42",
  "grey46", "gray46", "grey50", "gray50", "grey54", "gray54", "grey58", "gray58", "grey62",
  "gray62", "grey66", "gray66", "grey70", "gray70", "grey74", "gray74", "grey78", "gray78",
  "grey82", "gray82", "grey85", "gray85", "grey89", "gray89", "grey93", "gray93"
]

structure Style where
  switches : List (String × Bool) := []
  color : Option String := none
  background : Option String := none
  link : Option String := none

namespace Style

def switchNames : List String := [
  "bold", "dim", "italic", "underline", "blink", "blink2", "reverse", "conceal", "strike",
  "underline2", "frame", "encircle", "overline"]

def shortNames : List (String × String) := [
  ("b", "bold"), ("c", "conceal"), ("d", "dim"), ("i", "italic"), ("o", "overline"),
  ("r", "reverse"), ("s", "strike"), ("u", "underline"), ("uu", "underline2")]

def switch? (word : String) : Option String :=
  if switchNames.contains word then some word else shortNames.lookup word

inductive Fault where
  | unknown
  | notNumber
deriving DecidableEq

def between? (opening closing text : List Char) : Option (List Char) :=
  if opening.isPrefixOf text && closing.isSuffixOf (text.drop opening.length) then
    some ((text.drop opening.length).dropLast)
  else none

def isHexColor (word : List Char) : Bool :=
  word.head? = some '#' && word.length = 7 &&
    word.tail.all fun c => c.isDigit || ('a' ≤ c && c ≤ 'f')

def isNumberedColor (word : List Char) : Bool :=
  match between? "color(".toList [')'] word with
  | some digits =>
      !digits.isEmpty && digits.length ≤ 3 && digits.all Char.isDigit && Text.digitsValue digits < 256
  | none => false

def checkParts (inside : List Char) : Except Fault Unit :=
  let parts := inside.splitOn ','
  if inside.isEmpty || !inside.all (fun c => Text.isDecimal c || c = ',') || parts.length ≠ 3 then
    .error .unknown
  else
    match parts.mapM Numeral.settingInteger? with
    | some parts => if parts.all (· < 256) then .ok () else .error .unknown
    | none => .error .notNumber

def colorOf (word : String) : Except Fault String :=
  let name := lowered word
  let letters := name.toList
  if name = "default" || colorNames.contains name || isHexColor letters || isNumberedColor letters then
    .ok name
  else
    match between? "rgb(".toList [')'] letters with
    | some inside => (checkParts inside).map fun _ => name
    | none => .error .unknown

def add (style : Style) : List String → Except Fault Style
  | [] => .ok style
  | word :: rest =>
      match lowered word, rest with
      | "on", color :: rest => do
          let color ← colorOf color
          add { style with background := some color } rest
      | "on", [] => .error .unknown
      | "not", word :: rest =>
          match switch? word with
          | some name => add { style with switches := (name, false) :: style.switches } rest
          | none => .error .unknown
      | "not", [] => .error .unknown
      | "link", link :: rest => add { style with link := some link } rest
      | "link", [] => .error .unknown
      | small, rest =>
          match switch? small with
          | some name => add { style with switches := (name, true) :: style.switches } rest
          | none => do
              let color ← colorOf small
              add { style with color := some color } rest

def words (text : List Char) : List String :=
  ((text.splitBy fun a b => Text.isBlank a == Text.isBlank b).filter fun word =>
    !word.all Text.isBlank).map String.ofList

def read (text : List Char) : Except Fault Style :=
  if Text.trim text = "none".toList then .ok {} else add {} (words text)

def normalForm (style : Style) : String :=
  let switches := switchNames.filterMap fun name =>
    (style.switches.lookup name).map fun on => if on then name else "not " ++ name
  let parts := switches ++ style.color.toList ++
    (style.background.map fun color => "on " ++ color).toList ++
    (style.link.map fun link => "link " ++ link).toList
  if parts.isEmpty then "none" else " ".intercalate parts

def normalized (text : List Char) : Except Fault String :=
  match read text with
  | .ok style => .ok style.normalForm
  | .error .unknown => .ok (String.ofList (Text.lower (Text.trim text)))
  | .error .notNumber => .error .notNumber

end Style

end PipelineLint
