/-!
# Styled text

Texts for a terminal, in a colour or in bold.
-/

namespace DisplayGen.Style

/-- A text between the codes of a style and the code that ends it. -/
def paint (codes text : String) : String := "\x1b[" ++ codes ++ "m" ++ text ++ "\x1b[0m"

/-- A text in bold. -/
def bold (text : String) : String := paint "1" text

/-- A text in red and bold. -/
def boldRed (text : String) : String := paint "1;31" text

/-- A text in blue and bold. -/
def boldBlue (text : String) : String := paint "1;34" text

/-- A text in green. -/
def green (text : String) : String := paint "32" text

/-- A text in yellow. -/
def yellow (text : String) : String := paint "33" text

/-- A text in blue. -/
def blue (text : String) : String := paint "34" text

/-- A text in cyan. -/
def cyan (text : String) : String := paint "36" text

end DisplayGen.Style
