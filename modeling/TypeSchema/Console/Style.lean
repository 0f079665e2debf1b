import TypeSchema.Text.Table
/-!
# Styles

A tag in a printed message names a style by words: attributes such as `bold`, each of which may
be denied by `not`, a colour, a background after `on`, and the address of a link. Two tags that
ask for the same style have the same normal form, in which words stand in a fixed order and
attributes have their long names.

A tag whose words are no style is its own normal form, in lower case.
-/

namespace TypeSchema.Console

/-- What the words of a style ask for. -/
structure Style where
  /-- The attributes that are asked for or denied, by their long names. -/
  attributes : List (String × Bool)
  color : Option String
  background : Option String
  link : Option String
  deriving DecidableEq, Repr, Inhabited

namespace Style

/-- The attributes in the order of the normal form, each with its short names. -/
def attributeNames : List (String × List String) :=
  [("bold", ["b"]), ("dim", ["d"]), ("italic", ["i"]), ("underline", ["u"]), ("blink", []),
   ("blink2", []), ("reverse", ["r"]), ("conceal", ["c"]), ("strike", ["s"]),
   ("underline2", ["uu"]), ("frame", []), ("encircle", []), ("overline", ["o"])]

/-- The attribute that a word names. -/
def attribute? (word : String) : Option String :=
  attributeNames.findSome? fun (name, short) =>
    if word = name ∨ word ∈ short then some name else none

/-- The colours that have names. -/
def colorNames : List String :=
  ["default black red green yellow blue magenta cyan white bright_black bright_red bright_green",
   "bright_yellow bright_blue bright_magenta bright_cyan bright_white grey0 gray0 navy_blue",
   "dark_blue blue3 blue1 dark_green deep_sky_blue4 dodger_blue3 dodger_blue2 green4",
   "spring_green4 turquoise4 deep_sky_blue3 dodger_blue1 green3 spring_green3 dark_cyan",
   "light_sea_green deep_sky_blue2 deep_sky_blue1 spring_green2 cyan3 dark_turquoise turquoise2",
   "green1 spring_green1 medium_spring_green cyan2 cyan1 dark_red deep_pink4 purple4 purple3",
   "blue_violet orange4 grey37 gray37 medium_purple4 slate_blue3 royal_blue1 chartreuse4",
   "dark_sea_green4 pale_turquoise4 steel_blue steel_blue3 cornflower_blue chartreuse3",
   "cadet_blue sky_blue3 steel_blue1 pale_green3 sea_green3 aquamarine3 medium_turquoise",
   "chartreuse2 sea_green2 sea_green1 aquamarine1 dark_slate_gray2 dark_magenta dark_violet",
   "purple light_pink4 plum4 medium_purple3 slate_blue1 yellow4 wheat4 grey53 gray53",
   "light_slate_grey light_slate_gray medium_purple light_slate_blue dark_olive_green3",
   "dark_sea_green light_sky_blue3 sky_blue2 dark_sea_green3 dark_slate_gray3 sky_blue1",
   "chartreuse1 light_green pale_green1 dark_slate_gray1 red3 medium_violet_red magenta3",
   "dark_orange3 indian_red hot_pink3 medium_orchid3 medium_orchid medium_purple2",
   "dark_goldenrod light_salmon3 rosy_brown grey63 gray63 medium_purple1 gold3 dark_khaki",
   "navajo_white3 grey69 gray69 light_steel_blue3 light_steel_blue yellow3 dark_sea_green2",
   "light_cyan3 light_sky_blue1 green_yellow dark_olive_green2 dark_sea_green1 pale_turquoise1",
   "deep_pink3 magenta2 hot_pink2 orchid medium_orchid1 orange3 light_pink3 pink3 plum3 violet",
   "light_goldenrod3 tan misty_rose3 thistle3 plum2 khaki3 light_goldenrod2 light_yellow3",
   "grey84 gray84 light_steel_blue1 yellow2 dark_olive_green1 honeydew2 light_cyan1 red1",
   "deep_pink2 deep_pink1 magenta1 orange_red1 indian_red1 hot_pink dark_orange salmon1",
   "light_coral pale_violet_red1 orchid2 orchid1 orange1 sandy_brown light_salmon1 light_pink1",
   "pink1 plum1 gold1 navajo_white1 misty_rose1 thistle1 yellow1 light_goldenrod1 khaki1 wheat1",
   "cornsilk1 grey100 gray100 grey3 gray3 grey7 gray7 grey11 gray11 grey15 gray15 grey19 gray19",
   "grey23 gray23 grey27 gray27 grey30 gray30 grey35 gray35 grey39 gray39 grey42 gray42 grey46",
   "gray46 grey50 gray50 grey54 gray54 grey58 gray58 grey62 gray62 grey66 gray66 grey70 gray70",
   "grey74 gray74 grey78 gray78 grey82 gray82 grey85 gray85 grey89 gray89 grey93 gray93"]

/-- A letter in lower case. Letters outside ASCII stand in no colour and no attribute. -/
def lower (word : List Char) : String := String.ofList (word.map Char.toLower)

/-- Why some words are no style. -/
inductive Refusal where
  /-- A word that is neither an attribute nor a colour, or one that lacks its object. -/
  | unknownWord
  /-- A colour with an empty component. -/
  | emptyComponent
  deriving DecidableEq, Repr

/-- What stands in the parentheses after a name. -/
def inParentheses? (name : String) (cs : List Char) : Option (List Char) :=
  let start := name.toList ++ ['(']
  if start.isPrefixOf cs && cs.getLast? == some ')' && start.length < cs.length then
    some ((cs.drop start.length).dropLast)
  else none

/-- The number that decimal digits spell. -/
def decimal (ds : List Char) : Nat := ds.foldl (fun n d => 10 * n + Text.Table.digit d) 0

/-- Check that a word in lower case is a colour: a name, or numbers. -/
def checkColor (word : String) : Except Refusal Unit :=
  let cs := word.toList
  if (colorNames.any fun line => (Text.Table.words line).contains cs) then .ok ()
  else
    let digits := cs.drop 1
    if cs.head? = some '#' ∧ digits.length = 6 ∧
        digits.all (fun c => c.isDigit || ('a' ≤ c && c ≤ 'f')) then .ok ()
    else match inParentheses? "color" cs, inParentheses? "rgb" cs with
      | some ds, _ =>
        if 1 ≤ ds.length ∧ ds.length ≤ 3 ∧ ds.all Char.isDigit ∧ decimal ds ≤ 255 then .ok ()
        else .error .unknownWord
      | none, some inner =>
        let parts := Text.splitAt (· == ',') inner
        if inner = [] ∨ !(inner.all fun c => c.isDigit || c == ',') ∨ parts.length ≠ 3 then
          .error .unknownWord
        else if parts.any List.isEmpty then .error .emptyComponent
        else if parts.all fun p => decimal p ≤ 255 then .ok () else .error .unknownWord
      | none, none => .error .unknownWord

/-- The style that some words ask for, on top of a style. -/
def ofWords (style : Style) : List (List Char) → Except Refusal Style
  | [] => .ok style
  | word :: rest =>
    match lower word, rest with
    | "on", [] | "link", [] | "not", [] => .error .unknownWord
    | "on", color :: rest => do
      checkColor (lower color)
      ofWords { style with background := some (lower color) } rest
    | "not", name :: rest =>
      match attribute? (String.ofList name) with
      | some a => ofWords { style with attributes := (a, false) :: style.attributes } rest
      | none => .error .unknownWord
    | "link", address :: rest =>
      ofWords { style with link := some (String.ofList address) } rest
    | word, rest =>
      match attribute? word with
      | some a => ofWords { style with attributes := (a, true) :: style.attributes } rest
      | none => do
        checkColor word
        ofWords { style with color := some word } rest

/-- The style that a text asks for. -/
def ofText (cs : List Char) : Except Refusal Style :=
  let plain : Style := ⟨[], none, none, none⟩
  if Text.trim cs = "none".toList then .ok plain else ofWords plain (Text.words cs)

/-- The words of a style in their order; an attribute counts as it was last written. -/
def words (style : Style) : List String :=
  (attributeNames.filterMap fun (name, _) =>
    (style.attributes.lookup name).map fun asked => if asked then name else "not " ++ name) ++
  style.color.toList ++ (style.background.toList.flatMap fun c => ["on", c]) ++
  (style.link.toList.flatMap fun l => ["link", l])

/-- The normal form of a style. -/
def display (style : Style) : String :=
  if style.words.isEmpty then "none" else " ".intercalate style.words

/-- The normal form of the name of a tag; what is no style is trimmed and put in lower case. -/
def normalize (name : List Char) : Except Refusal String :=
  match ofText name with
  | .ok style => .ok style.display
  | .error .unknownWord => .ok (lower (Text.trim name))
  | .error .emptyComponent => .error .emptyComponent

end Style

end TypeSchema.Console
