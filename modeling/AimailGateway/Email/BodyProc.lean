import AimailGateway.Email.Entities

/-! # Incoming bodies

A body is taken apart at its quotes, layer after layer; each layer loses its
whitelist instructions, its signature and its noise, and the layers are put
together again with quote markers.
-/

namespace AimailGateway.Email

open Library

namespace BodyProc

/-- What the compiled patterns and the crate for HTML answer. -/
structure Engine where
  /-- The first group of every match of `NAMED_SIG`. -/
  namedSig : String → List String
  /-- The two groups of the first match of `ZH_SIG`. -/
  zhSig : String → Option (String × String)
  noisePatterns : String → Bool
  wlAdd : String → Bool
  wlRemove : String → Bool
  wlLet : String → Bool
  /-- `html_to_markdown_rs::convert`, with its error as `none`. -/
  convert : String → Option (Option String)
  tables : CaseTables

/-! ## Signatures -/

/-- The start of the last characters that fit in so many bytes. -/
def floorCut : Nat → List Char → List Char
  | _, [] => []
  | room, head :: tail =>
      if head.utf8Size ≤ room then head :: floorCut (room - head.utf8Size) tail
      else []

/-- `&text[..text.floor_char_boundary(limit)]`. -/
def floorTo (limit : Nat) (text : String) : String :=
  String.ofList (floorCut limit text.toList)

/-- `&text[text.floor_char_boundary(start)..]`. -/
def floorFrom (start : Nat) (text : String) : String :=
  String.ofList (text.toList.drop (floorCut start text.toList).length)

/-- `SIG_SEP` is a line of two dashes and a blank. -/
def extractRfc3676 (body : String) : Option String :=
  match (Text.split '\n' body).dropWhile (· != "-- ") with
  | [] => none
  | _ :: rest =>
      let sig := Text.trim ("\n".intercalate rest)
      if sig = "" then none else some sig

section Signature

variable (engine : Engine)

def extractNamedClosing (body : String) : Option String :=
  (engine.namedSig body).getLast?.map Text.trim

def extractChineseBare (body : String) : Option String :=
  (engine.zhSig (floorFrom (Text.byteLength body - 500) body)).map
    fun groups => groups.1 ++ " | " ++ groups.2

def cleanSignature (sig : String) : String :=
  let lines := (Text.lines sig).filter fun line => !engine.noisePatterns line
  let lines := (lines.map Text.trim).filter (· != "")
  let joined := " | ".intercalate lines
  if 300 < Text.byteLength joined then floorTo 300 joined else joined

def titleHints : List String := [
  "Engineer", "Manager", "Director", "VP", "CTO", "CEO", "Developer",
  "Designer", "Analyst", "Lead", "Head", "Chief", "President", "Specialist",
  "Coordinator", "Consultant"]

def extractBareNameEnd (body : String) : Option String :=
  let lines := Text.lines body
  if Text.byteLength body < 40 ∨ lines.length < 3 then none
  else
    match lines.reverse.filter (Text.trim · != "") with
    | last :: penultimate :: _ =>
        let penultimate := Text.trim penultimate
        let last := Text.trim last
        let length := Text.byteLength penultimate
        if length < 2 ∨ 30 < length then none
        else if Text.containsChar '.' penultimate ∧ 6 < length then none
        else if titleHints.any (Text.containsText · last) then
          some (penultimate ++ " | " ++ last)
        else none
    | _ => none

structure ExtractedSignature where
  raw : String
  separator : String
  /-- In hundredths. -/
  confidence : Nat
  deriving DecidableEq

/-- A rule counts if something is left of what it finds. -/
def kept (found : Option String) (confidence : Nat) : Option (String × Nat) :=
  match found with
  | none => none
  | some sig =>
      let cleaned := cleanSignature engine sig
      if cleaned = "" then none else some (cleaned, confidence)

def extractSignature (body : String) : Option (String × Nat) :=
  if body = "" then none
  else
    (kept engine (extractRfc3676 body) 95).or <|
      (kept engine (extractNamedClosing engine body) 80).or <|
        (kept engine (extractChineseBare engine body) 65).or <|
          kept engine (extractBareNameEnd body) 40

theorem kept_ne_empty {found : Option String} {confidence : Nat}
    {sig : String × Nat} (result : kept engine found confidence = some sig) :
    sig.1 ≠ "" := by
  cases found with
  | none => cases result
  | some found =>
      simp only [kept] at result
      generalize cleanSignature engine found = cleaned at result
      split at result
      · cases result
      · next filled =>
          cases result
          exact filled

theorem extractSignature_ne_empty {body : String} {sig : String × Nat}
    (result : extractSignature engine body = some sig) : sig.1 ≠ "" := by
  rw [extractSignature] at result
  split at result
  · cases result
  · simp only [Option.or_eq_some_iff] at result
    obtain rule | ⟨-, rule | ⟨-, rule | ⟨-, rule⟩⟩⟩ := result <;>
      exact kept_ne_empty engine rule

end Signature

/-! ## Layers -/

inductive LayerKind where
  | current
  | forward
  | reply
  deriving DecidableEq

structure Layer where
  body : String
  signature : Option ExtractedSignature
  kind : LayerKind

structure ProcessedEmail where
  body : String
  signature : Option ExtractedSignature
  layers : List Layer

def isForwardBoundary (line : String) : Bool :=
  let t := Text.trim line
  let unquoted := ((Text.afterStart ">" t).map Text.trim).getD t
  t == "--- Forwarded message ---" || t == "--- forwarded message ---" ||
    t == "--转发邮件--" || t == "---------- Forwarded message ---------" ||
    t == "-----Original Message-----" ||
    unquoted == "-----Original Message-----" ||
    Text.containsText "------------------ 原始邮件 ---------" t

def unquotedLine (line : String) : Bool :=
  Text.trim line != "" && !Text.startsWith ">" (Text.trim line)

def disclaimerMarkers : List String := [
  "This email is intended for", "This communication is confidential",
  "This message contains confidential", "DISCLAIMER", "本邮件及其附件内容",
  "本电子邮件及其附件", "本邮件包含保密信息", "IMPORTANT NOTICE",
  "The information contained in this",
  "If you have received this email in error", "Email intended for",
  "This email has been sent", "EMAIL SECURITY INFORMATION", "RESTRICTED",
  "ACCOUNT-RELATED QUESTIONS", "Please do not reply to this email",
  "Stay in the know"]

def isDisclaimerStart (line : String) : Bool :=
  disclaimerMarkers.any (Text.containsText · line)

def isDisclaimerContinuation (line : String) : Bool :=
  ["©", "®", "RESTRICTED", "Member FDIC", "&nbsp;", " ", "PO Box", "P.O. Box",
    "All rights reserved", "此电子邮件", "此邮件", "N.A.", "P.O."].any
      (Text.startsWith · line) ||
    Text.containsText "License #:" line

/-- The lines that stay, in or after a disclaimer. -/
def withoutDisclaimer : Bool → List String → List String
  | _, [] => []
  | inDisclaimer, line :: rest =>
      let t := Text.trim line
      if t = "" ∧ inDisclaimer then withoutDisclaimer inDisclaimer rest
      else if isDisclaimerStart t then withoutDisclaimer true rest
      else if inDisclaimer then
        if isDisclaimerContinuation t then withoutDisclaimer true rest
        else line :: withoutDisclaimer false rest
      else line :: withoutDisclaimer false rest

def filterNoise (body : String) : String :=
  "\n".intercalate (withoutDisclaimer false (Text.lines body))

def beforeLast (part : List Char) : List Char → Option (List Char)
  | [] => if part = [] then some [] else none
  | head :: tail =>
      match beforeLast part tail with
      | some before => some (head :: before)
      | none => if part.isPrefixOf (head :: tail) then some [] else none

/-- `str::trim_end_matches` of two dashes. -/
def withoutDashes : List Char → List Char
  | '-' :: '-' :: rest => withoutDashes rest
  | text => text

def stripSignatureFromBody (body signature : String) : String :=
  match beforeLast signature.toList body.toList with
  | some before =>
      let before := Text.trim (String.ofList before)
      Text.trim (String.ofList (withoutDashes before.toList.reverse).reverse)
  | none => body

def isHtml (body : String) : Bool :=
  Text.startsWith "<" (Text.trimStart body) ||
    Text.startsWith "<!DOCTYPE" (Text.trimStart body) ||
    Text.startsWith "<html" (Text.trimStart body)

/-- `EmailFactory::html_to_text`: the text outside the tags. -/
def outsideTags : Bool → List Char → List Char
  | _, [] => []
  | inTag, character :: rest =>
      if character = '<' then ' ' :: outsideTags true rest
      else if character = '>' then outsideTags false rest
      else if inTag then outsideTags true rest
      else character :: outsideTags false rest

def htmlToText (html : String) : String :=
  " ".intercalate
    (Text.words (String.ofList (outsideTags false html.toList)))

section Body

variable (engine : Engine)

def isReplyBoundary (line : String) : Bool :=
  let t := engine.tables.toLowercase (Text.trim line)
  (Text.startsWith "on " t && Text.endsWith "wrote:" t) ||
    ((Text.startsWith "在 " t || Text.startsWith "于 " t) &&
      Text.containsText "写道" t)

def stripWhitelistInstructions (body : String) : String :=
  let instructs := fun line =>
    engine.wlAdd line || engine.wlRemove line || engine.wlLet line
  if (Text.lines body).any instructs then
    Text.trim ("\n".intercalate
      ((Text.lines body).filter fun line => !instructs line))
  else body

def htmlToMarkdown (html : String) : String :=
  match engine.convert html with
  | some content => content.getD ""
  | none => htmlToText html

def processSingleLayer (body : String) (kind : LayerKind) : Layer :=
  let clean1 := stripWhitelistInstructions engine body
  let sig := (extractSignature engine clean1).map fun found =>
    { raw := found.1, separator := "-- ", confidence := found.2 }
  let clean2 :=
    match sig with
    | some s => stripSignatureFromBody clean1 s.raw
    | none => clean1
  let clean3 := if isHtml clean2 then htmlToMarkdown engine clean2 else clean2
  { body := filterNoise (Entities.decodeHtmlEntities clean3)
    signature := sig
    kind }

def firstBoundary (lines : List String) :
    Option (List String × LayerKind × List String) :=
  let boundary := fun line => isForwardBoundary line || isReplyBoundary engine line
  match lines.dropWhile (!boundary ·) with
  | [] => none
  | line :: rest =>
      some (lines.takeWhile (!boundary ·),
        if isForwardBoundary line then .forward else .reply, rest)

def splitAtQuoteBoundary (body : String) :
    Option (String × String × String × LayerKind) :=
  (firstBoundary engine (Text.lines body)).map fun (before, kind, after) =>
    let before := "\n".intercalate before
    if kind = .reply then
      (before, "\n".intercalate (after.takeWhile (!unquotedLine ·)),
        "\n".intercalate (after.dropWhile (!unquotedLine ·)), kind)
    else (before, "\n".intercalate after, "", kind)

/-- The layers from outside in, so many at most. -/
def decomposeFrom : Nat → Bool → String → List Layer
  | 0, _, _ => []
  | count + 1, first, remaining =>
      match splitAtQuoteBoundary engine remaining with
      | some (current, quoted, afterQuote, kind) =>
          let combined :=
            if afterQuote = "" then current else current ++ "\n" ++ afterQuote
          processSingleLayer engine combined (if first then .current else kind)
            :: decomposeFrom count false quoted
      | none =>
          [processSingleLayer engine remaining
            (if first then .current else .reply)]

def decomposeLayers (body : String) : List Layer :=
  decomposeFrom engine 20 true body

end Body

/-! ## Assembly -/

def hasCjk (text : String) : Bool :=
  text.toList.any fun c =>
    (0x4e00 ≤ c.toNat && c.toNat ≤ 0x9fff) ||
      (0x3000 ≤ c.toNat && c.toNat ≤ 0x303f) ||
      (0xff00 ≤ c.toNat && c.toNat ≤ 0xffef)

def currentParts (cn : Bool) (layer : Layer) : List String :=
  (if layer.body = "" then [] else [layer.body]) ++
    layer.signature.toList.map fun sig =>
      "---\n\n" ++ (if cn then "**发件人签名:**" else "**Sender Signature:**") ++
        " " ++ sig.raw

def kindLabel : LayerKind → Bool → String
  | .forward, true => "**转发邮件:**"
  | .forward, false => "**Forwarded Message:**"
  | .reply, true => "**回复:**"
  | .reply, false => "**Reply:**"
  | .current, true => "**引用:**"
  | .current, false => "**Quoted:**"

def quotedParts (cn : Bool) (depth : Nat) (layer : Layer) : List String :=
  let marks := String.join (List.replicate depth "> ")
  let quotedBody := "\n".intercalate ((Text.lines layer.body).map fun line =>
    if Text.trim line = "" then ">" else "> " ++ line)
  ["---\n" ++ kindLabel layer.kind cn] ++
    (if layer.body = "" then [] else [quotedBody]) ++
    layer.signature.toList.map fun sig =>
      marks ++ "> ---\n" ++ marks ++ "> " ++
        (if cn then "**原发件人签名:**" else "**Original Sender Signature:**") ++
        " " ++ sig.raw

def assembleLayers (layers : List Layer) (cn : Bool) : String :=
  "\n\n".intercalate (layers.zipIdx.flatMap fun (layer, depth) =>
    if depth = 0 then currentParts cn layer else quotedParts cn depth layer)

/-- The source passes over its second argument. -/
def processEmailBody (engine : Engine) (body : String) : ProcessedEmail :=
  let layers := decomposeLayers engine body
  { body := assembleLayers layers (hasCjk body)
    signature := layers.head?.bind (·.signature)
    layers }

theorem processEmailBody_signature_ne_empty {engine : Engine} {body : String}
    {sig : ExtractedSignature}
    (result : (processEmailBody engine body).signature = some sig) :
    sig.raw ≠ "" := by
  have layered : ∀ text kind,
      (processSingleLayer engine text kind).signature = some sig →
      sig.raw ≠ "" := by
    intro text kind extracted
    simp only [processSingleLayer, Option.map_eq_some_iff] at extracted
    obtain ⟨found, rule, rfl⟩ := extracted
    exact extractSignature_ne_empty engine rule
  simp only [processEmailBody, decomposeLayers, decomposeFrom] at result
  cases boundary : splitAtQuoteBoundary engine body with
  | none =>
      rw [boundary] at result
      exact layered _ _ result
  | some parts =>
      rw [boundary] at result
      exact layered _ _ result

/-- An engine that finds neither closings, nor noise, nor instructions. -/
def silentEngine : Engine where
  namedSig := fun _ => []
  zhSig := fun _ => none
  noisePatterns := fun _ => false
  wlAdd := fun _ => false
  wlRemove := fun _ => false
  wlLet := fun _ => false
  convert := fun _ => none
  tables := Text.asciiTables

example : (processEmailBody silentEngine "Hi Bob\n-- \nAnn\nCTO").body =
    "Hi Bob\n-- \nAnn\nCTO\n\n---\n\n**Sender Signature:** Ann | CTO" := by
  decide +kernel

end BodyProc

end AimailGateway.Email
