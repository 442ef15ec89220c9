import Plotter.Number
import Plotter.Text

namespace Plotter

structure Color where
  red : UInt8
  green : UInt8
  blue : UInt8
  alpha : UInt8
deriving DecidableEq

namespace Channel

def hex (channel : UInt8) : Text :=
  [Nat.digitChar (channel.toNat / 16), Nat.digitChar (channel.toNat % 16)]

end Channel

namespace Color

def black : Color := ⟨0, 0, 0, 255⟩

def white : Color := ⟨255, 255, 255, 255⟩

def hex (c : Color) : Text := '#' :: Channel.hex c.red ++ Channel.hex c.green ++ Channel.hex c.blue

def opacity (c : Color) : Number := Number.ofRatio c.alpha.toNat 255

def opacityText (c : Color) : Text :=
  let thousandths := roundHalfEven (1000 * c.alpha.toNat) 255
  let places := Text.ofNat (thousandths % 1000)
  Text.ofNat (thousandths / 1000) ++ '.' :: List.replicate (3 - places.length) '0' ++ places

end Color

structure NamedColor where
  name : Text
  color : Color
deriving DecidableEq

namespace NamedColor

private def solid (name : String) (red green blue : UInt8) : NamedColor := ⟨name.toList, ⟨red, green, blue, 255⟩⟩

def palette : List NamedColor := [
  ⟨"Transparent".toList, ⟨255, 255, 255, 0⟩⟩,
  solid "AliceBlue" 240 248 255,
  solid "AntiqueWhite" 250 235 215,
  solid "Aqua" 0 255 255,
  solid "Aquamarine" 127 255 212,
  solid "Azure" 240 255 255,
  solid "Beige" 245 245 220,
  solid "Bisque" 255 228 196,
  solid "Black" 0 0 0,
  solid "BlanchedAlmond" 255 235 205,
  solid "Blue" 0 0 255,
  solid "BlueViolet" 138 43 226,
  solid "Brown" 165 42 42,
  solid "BurlyWood" 222 184 135,
  solid "CadetBlue" 95 158 160,
  solid "Chartreuse" 127 255 0,
  solid "Chocolate" 210 105 30,
  solid "Coral" 255 127 80,
  solid "CornflowerBlue" 100 149 237,
  solid "Cornsilk" 255 248 220,
  solid "Crimson" 220 20 60,
  solid "Cyan" 0 255 255,
  solid "DarkBlue" 0 0 139,
  solid "DarkCyan" 0 139 139,
  solid "DarkGoldenrod" 184 134 11,
  solid "DarkGray" 169 169 169,
  solid "DarkGreen" 0 100 0,
  solid "DarkKhaki" 189 183 107,
  solid "DarkMagenta" 139 0 139,
  solid "DarkOliveGreen" 85 107 47,
  solid "DarkOrange" 255 140 0,
  solid "DarkOrchid" 153 50 204,
  solid "DarkRed" 139 0 0,
  solid "DarkSalmon" 233 150 122,
  solid "DarkSeaGreen" 143 188 143,
  solid "DarkSlateBlue" 72 61 139,
  solid "DarkSlateGray" 47 79 79,
  solid "DarkTurquoise" 0 206 209,
  solid "DarkViolet" 148 0 211,
  solid "DeepPink" 255 20 147,
  solid "DeepSkyBlue" 0 191 255,
  solid "DimGray" 105 105 105,
  solid "DodgerBlue" 30 144 255,
  solid "Firebrick" 178 34 34,
  solid "FloralWhite" 255 250 240,
  solid "ForestGreen" 34 139 34,
  solid "Fuchsia" 255 0 255,
  solid "Gainsboro" 220 220 220,
  solid "GhostWhite" 248 248 255,
  solid "Gold" 255 215 0,
  solid "Goldenrod" 218 165 32,
  solid "Gray" 128 128 128,
  solid "Green" 0 128 0,
  solid "GreenYellow" 173 255 47,
  solid "Honeydew" 240 255 240,
  solid "HotPink" 255 105 180,
  solid "IndianRed" 205 92 92,
  solid "Indigo" 75 0 130,
  solid "Ivory" 255 255 240,
  solid "Khaki" 240 230 140,
  solid "Lavender" 230 230 250,
  solid "LavenderBlush" 255 240 245,
  solid "LawnGreen" 124 252 0,
  solid "LemonChiffon" 255 250 205,
  solid "LightBlue" 173 216 230,
  solid "LightCoral" 240 128 128,
  solid "LightCyan" 224 255 255,
  solid "LightGoldenrodYellow" 250 250 210,
  solid "LightGray" 211 211 211,
  solid "LightGreen" 144 238 144,
  solid "LightPink" 255 182 193,
  solid "LightSalmon" 255 160 122,
  solid "LightSeaGreen" 32 178 170,
  solid "LightSkyBlue" 135 206 250,
  solid "LightSlateGray" 119 136 153,
  solid "LightSteelBlue" 176 196 222,
  solid "LightYellow" 255 255 224,
  solid "Lime" 0 255 0,
  solid "LimeGreen" 50 205 50,
  solid "Linen" 250 240 230,
  solid "Magenta" 255 0 255,
  solid "Maroon" 128 0 0,
  solid "MediumAquamarine" 102 205 170,
  solid "MediumBlue" 0 0 205,
  solid "MediumOrchid" 186 85 211,
  solid "MediumPurple" 147 112 219,
  solid "MediumSeaGreen" 60 179 113,
  solid "MediumSlateBlue" 123 104 238,
  solid "MediumSpringGreen" 0 250 154,
  solid "MediumTurquoise" 72 209 204,
  solid "MediumVioletRed" 199 21 133,
  solid "MidnightBlue" 25 25 112,
  solid "MintCream" 245 255 250,
  solid "MistyRose" 255 228 225,
  solid "Moccasin" 255 228 181,
  solid "NavajoWhite" 255 222 173,
  solid "Navy" 0 0 128,
  solid "OldLace" 253 245 230,
  solid "Olive" 128 128 0,
  solid "OliveDrab" 107 142 35,
  solid "Orange" 255 165 0,
  solid "OrangeRed" 255 69 0,
  solid "Orchid" 218 112 214,
  solid "PaleGoldenrod" 238 232 170,
  solid "PaleGreen" 152 251 152,
  solid "PaleTurquoise" 175 238 238,
  solid "PaleVioletRed" 219 112 147,
  solid "PapayaWhip" 255 239 213,
  solid "PeachPuff" 255 218 185,
  solid "Peru" 205 133 63,
  solid "Pink" 255 192 203,
  solid "Plum" 221 160 221,
  solid "PowderBlue" 176 224 230,
  solid "Purple" 128 0 128,
  solid "RebeccaPurple" 102 51 153,
  solid "Red" 255 0 0,
  solid "RosyBrown" 188 143 143,
  solid "RoyalBlue" 65 105 225,
  solid "SaddleBrown" 139 69 19,
  solid "Salmon" 250 128 114,
  solid "SandyBrown" 244 164 96,
  solid "SeaGreen" 46 139 87,
  solid "SeaShell" 255 245 238,
  solid "Sienna" 160 82 45,
  solid "Silver" 192 192 192,
  solid "SkyBlue" 135 206 235,
  solid "SlateBlue" 106 90 205,
  solid "SlateGray" 112 128 144,
  solid "Snow" 255 250 250,
  solid "SpringGreen" 0 255 127,
  solid "SteelBlue" 70 130 180,
  solid "Tan" 210 180 140,
  solid "Teal" 0 128 128,
  solid "Thistle" 216 191 216,
  solid "Tomato" 255 99 71,
  solid "Turquoise" 64 224 208,
  solid "Violet" 238 130 238,
  solid "Wheat" 245 222 179,
  solid "White" 255 255 255,
  solid "WhiteSmoke" 245 245 245,
  solid "Yellow" 255 255 0,
  solid "YellowGreen" 154 205 50]

def named? (word : Text) : Option NamedColor := palette.find? fun n => n.name.SameWord word

end NamedColor

namespace Color

def name? (c : Color) : Option Text := (NamedColor.palette.find? fun n => n.color = c).map (·.name)

/-- The name; without one, the channels in hexadecimal, of which a full opacity is left out. -/
def text (c : Color) : Text :=
  match c.name? with
  | some name => name
  | none => if c.alpha = 255 then c.hex else c.hex ++ Channel.hex c.alpha

end Color

end Plotter
