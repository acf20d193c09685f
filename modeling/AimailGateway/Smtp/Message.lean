import AimailGateway.Errors
import AimailGateway.Library.Text

/-! # Messages and SMTP responses

What the receiver reads from a message. The MIME parser is a third-party
library and a parameter here, and so are the decoding of text bodies and the
conversion of HTML.
-/

namespace AimailGateway.Smtp

open Library

structure Response where
  code : Nat
  message : String
  deriving DecidableEq, Repr

def permFail (message : String) : Response := ⟨550, message⟩

def tempFail (message : String) : Response := ⟨451, message⟩

/-- A panic ends the connection without an answer. -/
def panicked : Response := ⟨0, ""⟩

structure MailHeader where
  key : String
  value : String
  deriving DecidableEq, Repr

inductive ParsedMail where
  | part (mimetype : String) (headers : List MailHeader)
      (body bodyRaw : Option String) (subparts : List ParsedMail)

namespace ParsedMail

def headers : ParsedMail → List MailHeader
  | part _ headers _ _ _ => headers

def body : ParsedMail → Option String
  | part _ _ body _ _ => body

def bodyRaw : ParsedMail → Option String
  | part _ _ _ bodyRaw _ => bodyRaw

end ParsedMail

structure Attachment where
  filename : String
  contentType : String
  size : Nat
  deriving DecidableEq, Repr

structure MailParser where
  parseHeaders : String → Option (List MailHeader)
  parseMail : String → Option ParsedMail
  /-- The text body and the attachments of a message. -/
  content : ParsedMail → String × List Attachment

/-! ## Headers -/

def isHeader (name : String) (header : MailHeader) : Bool :=
  Text.eqIgnoreAsciiCase header.key name

def headerValue (headers : List MailHeader) (name : String) : String :=
  ((headers.find? (isHeader name)).map (·.value)).getD ""

def lastHeaderValue (headers : List MailHeader) (name : String) : String :=
  headerValue headers.reverse name

def addressEntries (headers : List MailHeader) (name : String) : List String :=
  ((headers.filter (isHeader name)).flatMap fun header =>
    (Text.split ',' header.value).map Text.trim).filter (· != "")

/-- The text between the last `<` and the last `>`, or the whole entry without
such a pair. The slice panics when the last `>` stands before the last `<`. -/
def bracketed (entry : String) : Option String :=
  if Text.containsChar '<' entry && Text.containsChar '>' entry then
    let rest := Text.lastPiece '<' entry
    if Text.containsChar '>' rest then
      some (String.ofList (rest.toList.rdropWhile (· != '>')).dropLast)
    else
      none
  else
    some entry

/-- `strip_mime_display`: the address of an entry, without its display name. -/
def stripMimeDisplay (entry inner : String) : String :=
  if Text.containsChar '<' entry && Text.containsChar '>' entry then
    Text.trim inner
  else
    entry

/-- The envelope address a header address stands for: itself, or the address
left when its persona is stripped. -/
def envelopeMatch (envelope : List String) (email : String) : Option String :=
  if envelope.contains email then some email
  else
    match Text.splitOnce '.' email with
    | some (_, rest) =>
        if Text.containsChar '@' rest && envelope.contains rest then some rest
        else none
    | none => none

/-- The addresses of the header entries that match the envelope. -/
def filterRecipients (tables : CaseTables) (envelope : List String) :
    List String → Except Response (List String)
  | [] => .ok []
  | entry :: rest =>
      match bracketed entry with
      | none => .error panicked
      | some inner => do
          let kept ← filterRecipients tables envelope rest
          let email := tables.toLowercase (Text.trim inner)
          if (envelopeMatch envelope email).isSome then
            return stripMimeDisplay entry inner :: kept
          else
            return kept

example : addressEntries [⟨"TO", "Ann <ann@x.org>, bob@x.org"⟩] "to" =
    ["Ann <ann@x.org>", "bob@x.org"] := by decide

/-! ## Attachments -/

structure AttachmentLimits where
  maxAttachments : Nat
  maxSize : Nat
  allowedTypes : List String

def typeAllowed (limits : AttachmentLimits) (contentType : String) : Bool :=
  limits.allowedTypes.any fun allowed =>
    if Text.endsWith "/*" allowed then
      Text.startsWith (String.ofList allowed.toList.dropLast) contentType
    else
      allowed == contentType

/-- Number, sizes and types of the attachments, in this order; limits of a
system take precedence. -/
def validateAttachments (limits : AttachmentLimits)
    (attachments : List Attachment) (attCount attSize : Option Nat) :
    Except AppError Unit :=
  let maxCount := attCount.getD limits.maxAttachments
  let maxSize := attSize.getD limits.maxSize
  if maxCount < attachments.length then
    .error (.validation ("Too many attachments (" ++
      toString attachments.length ++ ") — max allowed: " ++ toString maxCount))
  else
    match attachments.find? (maxSize < ·.size) with
    | some attachment =>
        .error (.attachmentTooLarge ("Attachment '" ++ attachment.filename ++
          "' exceeds max size of " ++ toString maxSize ++ " bytes"))
    | none =>
        match attachments.find? fun attachment =>
            !limits.allowedTypes.isEmpty &&
              !typeAllowed limits attachment.contentType with
        | some attachment =>
            .error (.validation ("Attachment '" ++ attachment.filename ++
              "' has disallowed MIME type: " ++ attachment.contentType))
        | none => .ok ()

/-! ## Bounces -/

/-- The fields of a delivery status notification. -/
structure BounceDsn where
  originalFrom : String
  originalTo : String
  originalSubject : String
  origMessageId : String
  dsnStatus : String
  dsnDiagnostic : String
  deriving DecidableEq, Repr

mutual

/-- The first part of the type, in the order of the message. -/
def findMimePart (mimeType : String) : ParsedMail → Option ParsedMail
  | .part mimetype headers body bodyRaw subparts =>
      if mimetype == mimeType then
        some (.part mimetype headers body bodyRaw subparts)
      else
        findInParts mimeType subparts

def findInParts (mimeType : String) : List ParsedMail → Option ParsedMail
  | [] => none
  | sub :: rest =>
      match findMimePart mimeType sub with
      | some found => some found
      | none => findInParts mimeType rest

end

def lastLineValue (start body : String) : String :=
  (((Text.split '\n' body).reverse.findSome? (Text.afterStart start)).map
    fun value => if Text.endsWith "\r" value then
        String.ofList value.toList.dropLast
      else value).getD ""

/-- The fields of a bounce: the status from its delivery report, the rest from
the message it returns. -/
def parseBounceDsn (parser : MailParser) (raw : String) : Option BounceDsn := do
  let parsed ← parser.parseMail raw
  let dsnPart ← findMimePart "message/delivery-status" parsed
  let dsnBody ← dsnPart.body
  let origPart ← findMimePart "message/rfc822" parsed
  let origRaw ← origPart.bodyRaw
  let orig ← parser.parseMail origRaw
  return {
    originalFrom := headerValue orig.headers "from"
    originalTo := headerValue orig.headers "to"
    originalSubject := headerValue orig.headers "subject"
    origMessageId := headerValue orig.headers "message-id"
    dsnStatus := lastLineValue "Status: " dsnBody
    dsnDiagnostic := lastLineValue "Diagnostic-Code: " dsnBody }

end AimailGateway.Smtp
