import AimailGateway.Email.Entities
import AimailGateway.Library.Matches

/-! # Markdown to HTML

`markdown_to_html` escapes a body and passes it through one regular expression
after the other. Each pass is a function of the text it is given, in the order
of the source.
-/

namespace AimailGateway.Email

open Library Matches

namespace Markdown

/-! ## Patterns -/

/-- `^marker(.+)$` without the flag for lines: the text after the marker, if the
whole text is one line. -/
def wholeLine (marker text : List Char) : Option (List Char) :=
  let rest := text.drop marker.length
  if marker.isPrefixOf text && !rest.isEmpty && !rest.contains '\n' then some rest
  else none

/-- `(.+?)mark`: the shortest stretch of a line before the next mark. -/
def lazyUntil (mark : List Char) : List Char → Option (List Char)
  | [] => none
  | head :: rest =>
      if head = '\n' then none
      else if mark.isPrefixOf rest then some [head]
      else (lazyUntil mark rest).map (head :: ·)

/-- `mark(.+?)mark`. -/
def marked (mark text : List Char) : Option (List Char × Nat) :=
  if mark.isPrefixOf text then
    (lazyUntil mark (text.drop mark.length)).map fun content =>
      (content, mark.length + content.length + mark.length)
  else none

/-- `\[([^\]]+)\]\(([^)]+)\)`. -/
def linkAt : List Char → Option ((List Char × List Char) × Nat)
  | '[' :: text =>
      let content := text.takeWhile (· != ']')
      match text.dropWhile (· != ']') with
      | ']' :: '(' :: after =>
          let target := after.takeWhile (· != ')')
          if content.isEmpty || target.isEmpty || !after.contains ')' then none
          else some ((content, target), content.length + target.length + 4)
      | _ => none
  | _ => none

/-- A stretch between two backticks. -/
def codeAt : List Char → Option (List Char × Nat)
  | [] => none
  | head :: text =>
      let content := text.takeWhile (· != '\x60')
      if head != '\x60' || content.isEmpty || !text.contains '\x60' then none
      else some (content, content.length + 2)

/-- `.*?` up to the end of a list item, with the end. -/
def itemEnd : List Char → Option Nat
  | [] => none
  | head :: rest =>
      if "</li>".toList.isPrefixOf (head :: rest) then some 5
      else if head = '\n' then none
      else (itemEnd rest).map (· + 1)

/-- `<li>.*?</li>\n?`: the length of an item. -/
def itemAt (text : List Char) : Option Nat :=
  if "<li>".toList.isPrefixOf text then
    (itemEnd (text.drop 4)).map fun length =>
      if (text.drop (4 + length)).head? == some '\n' then 4 + length + 1
      else 4 + length
  else none

/-- One item after the other; there are no more than there are characters. -/
def itemsLength : Nat → List Char → Nat
  | 0, _ => 0
  | fuel + 1, text =>
      match itemAt text with
      | none => 0
      | some length => length + itemsLength fuel (text.drop length)

def itemsAt (text : List Char) : Option (List Char × Nat) :=
  let length := itemsLength text.length text
  if length = 0 then none else some (text.take length, length)

/-- `\n{3,}`. -/
def newlinesAt (text : List Char) : Option (Unit × Nat) :=
  let count := (text.takeWhile (· == '\n')).length
  if 3 ≤ count then some ((), count) else none

/-! ## Passes -/

def wrap (opening closing : String) (content : List Char) : List Char :=
  opening.toList ++ content ++ closing.toList

def lineAs (marker opening closing : String) (text : List Char) : List Char :=
  match wholeLine marker.toList text with
  | some rest => wrap opening closing rest
  | none => text

def headings (text : List Char) : List Char :=
  let text := lineAs "###### " "<h6>" "</h6>" text
  let text := lineAs "##### " "<h5>" "</h5>" text
  let text := lineAs "#### " "<h4>" "</h4>" text
  let text := lineAs "### " "<h3>" "</h3>" text
  let text := lineAs "## " "<h2>" "</h2>" text
  lineAs "# " "<h1>" "</h1>" text

def emphasised (mark opening closing : String) (text : List Char) : List Char :=
  replaceAll (marked mark.toList) (wrap opening closing) text

def emphasis (text : List Char) : List Char :=
  let text := emphasised "***" "<strong><em>" "</em></strong>" text
  let text := emphasised "**" "<strong>" "</strong>" text
  emphasised "*" "<em>" "</em>" text

/-- A link; its target is written as it is. -/
def anchor (link : List Char × List Char) : List Char :=
  "<a href=\"".toList ++ link.2 ++ "\">".toList ++ link.1 ++ "</a>".toList

def links (text : List Char) : List Char :=
  replaceAll linkAt anchor text

def codes (text : List Char) : List Char :=
  replaceAll codeAt (wrap "<code>" "</code>") text

def listItems (text : List Char) : List Char :=
  lineAs "* " "<li>" "</li>" (lineAs "- " "<li>" "</li>" text)

def lists (text : List Char) : List Char :=
  replaceAll itemsAt (wrap "<ul>" "</ul>") text

/-- `^---+$`. -/
def rule (text : List Char) : List Char :=
  if 3 ≤ text.length ∧ text.all (· == '-') then "<hr>".toList else text

/-- A line is a paragraph unless it begins with a tag. -/
def paragraph (line : String) : String :=
  let trimmed := Text.trim line
  if trimmed = "" then ""
  else if Text.startsWith "<" trimmed then line
  else "<p>" ++ line ++ "</p>"

def paragraphs (text : String) : String :=
  "\n".intercalate ((Text.lines text).map paragraph)

def collapse (text : List Char) : List Char :=
  replaceAll newlinesAt (fun _ => ['\n', '\n']) text

/-- `markdown_to_html`. -/
def markdownToHtml (markdown : String) : String :=
  let result := (Entities.markdownToHtmlEscape markdown).toList
  let result := codes (links (emphasis (headings result)))
  let result := rule (lists (listItems result))
  let result := paragraphs (String.ofList result)
  Text.trim (String.ofList (collapse result.toList))

end Markdown

end AimailGateway.Email
