/-!
# Colours

Text on a terminal may be painted: codes before it switch a style on, and one code behind it switches all
styles off.  A text that switches all styles off by itself has the style switched on again there.
Without colours every style leaves the text as it is.
-/

namespace LiteralPatch
namespace Command

/-- Whether text is painted. -/
structure Paint where
  enabled : Bool
deriving DecidableEq, Repr, Inhabited

namespace Paint

/-- The code that switches all styles off. -/
def off : String := "\x1b[0m"

/-- Text in the style with the given code. -/
def style (p : Paint) (code text : String) : String :=
  if p.enabled then
    let on := "\x1b[" ++ code ++ "m"
    on ++ text.replace off (off ++ on) ++ off
  else text

def red (p : Paint) (text : String) : String := p.style "31" text

def green (p : Paint) (text : String) : String := p.style "32" text

def yellow (p : Paint) (text : String) : String := p.style "33" text

def cyan (p : Paint) (text : String) : String := p.style "36" text

def bold (p : Paint) (text : String) : String := p.style "1" text

def dimmed (p : Paint) (text : String) : String := p.style "2" text

def boldYellow (p : Paint) (text : String) : String := p.style "1;33" text

end Paint
end Command
end LiteralPatch
