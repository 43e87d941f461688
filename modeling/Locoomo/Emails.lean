import Locoomo.Lib.Markup
import Locoomo.PublicTracking

/-! The e-mails about a parcel. Descriptions, names and addresses are what somebody
typed; the HTML shows them, and none of them becomes markup. -/

namespace Locoomo.Emails

open Utf16 PercentEncoding Markup
open Locoomo.TrackingInput
  (generateTrackingCode urlFor mem_dashed CODE_LENGTH ALPHABET PREFIX)
open Locoomo.PublicTracking (TrackingLink tokenFor)

/-! ## Escaping -/

def ESCAPES : List (Nat × Units) :=
  [(unit '&', text "&amp;"), (unit '<', text "&lt;"), (unit '>', text "&gt;"),
    (quotationMark, text "&quot;"), (apostrophe, text "&#39;")]

/-- `/[&<>"']/g` matches what `ESCAPES` has. -/
def escapeUnit (u : Nat) : Units := (ESCAPES.lookup u).getD [u]

def escapeHtml (value : Units) : Units := value.flatMap escapeUnit

theorem escapeUnit_stands (u : Nat) : Stands (escapeUnit u) [u] := by
  by_cases hu : u ∈ ESCAPES.map Prod.fst
  · have hall : ∀ u ∈ ESCAPES.map Prod.fst, ∀ quote ∈ PLACES,
        read (.plain quote) (escapeUnit u) = (.plain quote, [literal quote u]) := by decide
    exact hall u hu
  · have hsame : escapeUnit u = [u] := by
      have hlookup : ESCAPES.lookup u = none := by
        refine List.lookup_eq_none_iff.mpr fun x hx => ?_
        have hne : u ≠ x.1 := fun heq => hu (heq ▸ List.mem_map_of_mem hx)
        simpa using hne
      rw [escapeUnit, hlookup]
      rfl
    rw [hsame]
    refine stands_unit fun hspecial => hu ?_
    have hsub : ∀ u ∈ SPECIAL, u ∈ ESCAPES.map Prod.fst := by decide
    exact hsub u hspecial

/-- **What has been escaped is read as it was written**, between tags and in values. -/
theorem escapeHtml_stands (value : Units) : Stands (escapeHtml value) value :=
  stands_flatMap escapeUnit_stands value

example : escapeHtml (text "<a href=\"x\">Tom & Jerry's</a>") =
    text "&lt;a href=&quot;x&quot;&gt;Tom &amp; Jerry&#39;s&lt;/a&gt;" := by decide

/-! ## Numbers and codes -/

/-- A number as a template shows it. -/
def decimal (n : Nat) : Units := (Nat.toDigits 10 n).map unit

/-- `padStart(length, '0')`. -/
def padStart (length : Nat) (s : Units) : Units :=
  List.replicate (length - s.length) (unit '0') ++ s

def HANDOFF_CODE_LENGTH : Nat := 6

/-- The code that this draw of `randomInt(10 ** CODE_LENGTH)` gives. -/
def generateHandoffCode (draw : Fin (10 ^ HANDOFF_CODE_LENGTH)) : Units :=
  padStart HANDOFF_CODE_LENGTH (decimal draw)

/-- `koboToNaira(kobo).toFixed(2)`. -/
def koboToNaira (kobo : Nat) : Units :=
  decimal (kobo / 100) ++ text "." ++ padStart 2 (decimal (kobo % 100))

theorem decimal_stands (n : Nat) : Stands (decimal n) (decimal n) := by
  refine stands_self fun u hu => ?_
  obtain ⟨c, hc, rfl⟩ := List.mem_map.mp hu
  have hdigit : c.isDigit = true := Nat.isDigit_of_mem_toDigits (by decide) (by decide) hc
  have hrange : 48 ≤ c.toNat ∧ c.toNat ≤ 57 := by
    simpa [Char.isDigit, UInt32.le_iff_toNat_le] using hdigit
  have hnot : ∀ v ∈ SPECIAL, ¬ (48 ≤ v ∧ v ≤ 57) := by decide
  exact fun hspecial => hnot _ hspecial hrange

theorem padStart_stands {s : Units} (length : Nat) (h : Stands s s) :
    Stands (padStart length s) (padStart length s) := by
  refine (stands_self fun u hu => ?_).append h
  rw [(List.mem_replicate.mp hu).2]
  decide

theorem handoffCode_stands (draw : Fin (10 ^ HANDOFF_CODE_LENGTH)) :
    Stands (generateHandoffCode draw) (generateHandoffCode draw) :=
  padStart_stands _ (decimal_stands _)

theorem koboToNaira_stands (kobo : Nat) : Stands (koboToNaira kobo) (koboToNaira kobo) :=
  ((decimal_stands _).append (stands_self (by decide))).append
    (padStart_stands _ (decimal_stands _))

theorem trackingCode_units (draw : Fin CODE_LENGTH → Fin ALPHABET.length) :
    ∀ u ∈ generateTrackingCode draw, u ∈ PREFIX ++ [unit '-'] ++ ALPHABET :=
  mem_dashed fun _ hu => by
    obtain ⟨i, rfl⟩ := List.mem_ofFn.mp hu
    exact List.getElem_mem _

theorem trackingCode_stands (draw : Fin CODE_LENGTH → Fin ALPHABET.length) :
    Stands (generateTrackingCode draw) (generateTrackingCode draw) := by
  have hall : ∀ u ∈ PREFIX ++ [unit '-'] ++ ALPHABET, u ∉ SPECIAL := by decide
  exact stands_self fun u hu => hall u (trackingCode_units draw u hu)

/-! ## Pieces -/

structure EmailAttachment where
  filename : Units
  contentBase64 : Units
  contentType : Units
  contentId : Units
  deriving DecidableEq

structure EmailBlock where
  text : Units
  html : Units
  attachments : List EmailAttachment

/-- The configuration, and the package that draws the QR codes. -/
structure Tracking where
  FRONTEND_URL : Units
  link : TrackingLink
  toBuffer : Units → Units

def QR_CONTENT_ID : Units := text "tracking-qr"

def trackingText (trackingCode url : Units) : Units :=
  text "Tracking code: " ++ trackingCode ++ text "\n"
    ++ text "Track this parcel: " ++ url ++ text "\n"
    ++ text "Show this code (or the QR code in this email) at the station counter."

def trackingHtml (trackingCode url : Units) : Units :=
  text "<p>Tracking code: <strong style=\"font-size:20px;letter-spacing:2px\">"
    ++ trackingCode ++ text "</strong></p>"
    ++ text "<p><img src=\"cid:" ++ QR_CONTENT_ID
    ++ text "\" width=\"160\" height=\"160\" alt=\"QR code for " ++ trackingCode ++ text "\"></p>"
    ++ text "<p>Show this code at the station counter. <a href=\"" ++ escapeHtml url
    ++ text "\">Track this parcel</a></p>"

def trackingBlock (d : Tracking) (trackingCode : Units) : Except URIError EmailBlock := do
  let url ← urlFor d.FRONTEND_URL (tokenFor d.link) trackingCode
  return {
    text := trackingText trackingCode url
    html := trackingHtml trackingCode url
    attachments := [{
      filename := trackingCode ++ text ".png"
      contentBase64 := d.toBuffer trackingCode
      contentType := text "image/png"
      contentId := QR_CONTENT_ID }] }

structure LabelInstructions where
  lines : List Units
  note : Units

def labelInstructionsFor (upper : UpperCase) (trackingCode destinationNodeName : Units) :
    LabelInstructions where
  lines := [trackingCode, text "TO: " ++ upper.apply destinationNodeName]
  note := text "Write this clearly on the parcel with a marker before drop-off."

def labelText (label : LabelInstructions) : Units :=
  label.note ++ text "\n"
    ++ (text "\n").intercalate (label.lines.map fun line => text "    " ++ line)

def labelHtml (label : LabelInstructions) : Units :=
  text "<p>" ++ label.note ++ text "</p>"
    ++ text "<p style=\"font-family:monospace;font-size:18px;border:2px dashed #999;"
    ++ text "padding:8px;display:inline-block\">"
    ++ (text "<br>").intercalate (label.lines.map escapeHtml) ++ text "</p>"

/-! ## E-mails -/

structure Email where
  sentTo : Units
  subject : Units
  text : Units
  html : Units
  attachments : List EmailAttachment

structure OrderForEmail where
  trackingCode : Units
  receiverEmail : Units
  parcelDescription : Units

structure Station where
  name : Units
  address : Units
  city : Units

/-- `${name}, ${address}, ${city}`. -/
def whereOf (station : Station) : Units :=
  station.name ++ text ", " ++ station.address ++ text ", " ++ station.city

/-- The `instructions` of a collection code for the receiver. -/
def instructionsFor (destination : Station) (codeTtlMinutes : Nat) : Units :=
  text "Give this code to the staff at " ++ whereOf destination
    ++ text ", along with your name, to collect your parcel. "
    ++ text "The code expires in " ++ decimal codeTtlMinutes ++ text " minutes."

/-- Those for the sender of a returned parcel. -/
def senderInstructions (parcelDescription : Units) (origin : Station) (codeTtlMinutes : Nat) :
    Units :=
  text "Your returned parcel (" ++ parcelDescription
    ++ text ") is ready for you at " ++ whereOf origin ++ text ". "
    ++ text "Give this code to the staff there, along with your name, to collect it. "
    ++ text "The code expires in " ++ decimal codeTtlMinutes
    ++ text " minutes — ask the staff to resend it if it does."

section Receiver

variable (d : Tracking) (order : OrderForEmail) (destination : Station)

def enqueueOnItsWay : Except URIError Email := do
  let tracking ← trackingBlock d order.trackingCode
  return {
    sentTo := order.receiverEmail
    subject := text "A parcel is on its way to you"
    text :=
      text "A parcel has been sent to you through Locoomo: " ++ order.parcelDescription
        ++ text ".\n\n" ++ tracking.text ++ text "\n\n"
        ++ text "It will be ready for collection at " ++ whereOf destination ++ text ". "
        ++ text "We'll email you a collection code when it arrives — "
        ++ text "bring it and a form of ID."
    html :=
      text "<p>A parcel has been sent to you through Locoomo: "
        ++ escapeHtml order.parcelDescription ++ text ".</p>"
        ++ tracking.html
        ++ text "<p>It will be ready for collection at <strong>"
        ++ escapeHtml (whereOf destination)
        ++ text "</strong>. We'll email you a collection code when it arrives — "
        ++ text "bring it and a form of ID.</p>"
    attachments := tracking.attachments }

/-- `enqueueCollectionCode`, with the subject and the first sentence of its caller. -/
def enqueueCollectionCode (collectionCode : Units) (codeTtlMinutes : Nat)
    (subject intro : Units) : Except URIError Email := do
  let tracking ← trackingBlock d order.trackingCode
  let instructions := instructionsFor destination codeTtlMinutes
  return {
    sentTo := order.receiverEmail
    subject
    text :=
      text "Your collection code is: " ++ collectionCode ++ text "\n\n"
        ++ intro ++ text "\n" ++ instructions ++ text "\n\n" ++ tracking.text
    html :=
      text "<p>Your collection code is: <strong style=\"font-size:20px\">" ++ collectionCode
        ++ text "</strong></p>"
        ++ text "<p>" ++ escapeHtml intro ++ text "</p><p>" ++ escapeHtml instructions
        ++ text "</p>" ++ tracking.html
    attachments := tracking.attachments }

def enqueueReadyForCollection (collectionCode : Units) (codeTtlMinutes : Nat) :
    Except URIError Email :=
  enqueueCollectionCode d order destination collectionCode codeTtlMinutes
    (text "Your Locoomo parcel is ready for collection")
    (text "Your parcel (" ++ order.parcelDescription
      ++ text ") has arrived and is ready for collection.")

def enqueueNewCollectionCode (collectionCode : Units) (codeTtlMinutes : Nat) :
    Except URIError Email :=
  enqueueCollectionCode d order destination collectionCode codeTtlMinutes
    (text "Your new Locoomo collection code")
    (text "Here's a new collection code for your parcel (" ++ order.parcelDescription
      ++ text ").")

end Receiver

section Return

variable (d : Tracking) (order : OrderForEmail) (senderEmail : Units) (origin : Station)

/-- The first e-mail of `enqueueReturnStarted`. -/
def returnStartedToSender : Except URIError Email := do
  let tracking ← trackingBlock d order.trackingCode
  return {
    sentTo := senderEmail
    subject := text "Your parcel is being returned"
    text :=
      text "We couldn't complete the delivery of your parcel (" ++ order.parcelDescription
        ++ text "). It's on its way back to " ++ whereOf origin ++ text ".\n\n"
        ++ text "We'll email you a collection code when it's ready to pick up there.\n\n"
        ++ tracking.text
    html :=
      text "<p>We couldn't complete the delivery of your parcel ("
        ++ escapeHtml order.parcelDescription
        ++ text "). It's on its way back to <strong>" ++ escapeHtml (whereOf origin)
        ++ text "</strong>.</p>"
        ++ text "<p>We'll email you a collection code when it's ready to pick up there.</p>"
        ++ tracking.html
    attachments := tracking.attachments }

/-- The second. -/
def returnStartedToReceiver : Except URIError Email := do
  let tracking ← trackingBlock d order.trackingCode
  return {
    sentTo := order.receiverEmail
    subject := text "Your parcel could not be delivered"
    text :=
      text "We couldn't complete the delivery of the parcel sent to you ("
        ++ order.parcelDescription
        ++ text "), so it's being returned to the sender. You don't need to do anything.\n\n"
        ++ tracking.text
    html :=
      text "<p>We couldn't complete the delivery of the parcel sent to you ("
        ++ escapeHtml order.parcelDescription
        ++ text "), so it's being returned to the sender. "
        ++ text "You don't need to do anything.</p>"
        ++ tracking.html
    attachments := tracking.attachments }

def enqueueSenderCollectionCode (collectionCode : Units) (codeTtlMinutes : Nat) : Email :=
  let instructions := senderInstructions order.parcelDescription origin codeTtlMinutes
  { sentTo := senderEmail
    subject := text "Your returned parcel is ready for collection"
    text :=
      text "Your collection code is: " ++ collectionCode ++ text "\n\n" ++ instructions
        ++ text "\n\nTracking code: " ++ order.trackingCode
    html :=
      text "<p>Your collection code is: <strong style=\"font-size:20px\">" ++ collectionCode
        ++ text "</strong></p>"
        ++ text "<p>" ++ escapeHtml instructions ++ text "</p>"
        ++ text "<p>Tracking code: <strong>" ++ order.trackingCode ++ text "</strong></p>"
    attachments := [] }

end Return

/-! ## The confirmation -/

inductive ParcelSize
  | small | medium | large | extraLarge
  deriving DecidableEq

def ParcelSize.value : ParcelSize → Units
  | .small => text "small"
  | .medium => text "medium"
  | .large => text "large"
  | .extraLarge => text "extra_large"

structure PaidIntent where
  amountKobo : Nat
  receiverFullName : Units
  parcelDescription : Units
  parcelSize : ParcelSize

/-- The e-mail of `ConfirmPaymentIntentPaidService`. -/
def orderConfirmed (d : Tracking) (upper : UpperCase) (intent : PaidIntent)
    (trackingCode consumerEmail : Units) (originNode destinationNode : Station) :
    Except URIError Email := do
  let tracking ← trackingBlock d trackingCode
  let label := labelInstructionsFor upper trackingCode destinationNode.name
  let amountNaira := koboToNaira intent.amountKobo
  return {
    sentTo := consumerEmail
    subject := text "Your Locoomo order is confirmed"
    text :=
      text "Your payment was successful and your order has been placed.\n\n"
        ++ tracking.text ++ text "\n\n" ++ labelText label ++ text "\n\n"
        ++ text "Drop off at: " ++ originNode.name ++ text ", " ++ originNode.address ++ text "\n"
        ++ text "Collection at: " ++ destinationNode.name ++ text "\n"
        ++ text "Receiver: " ++ intent.receiverFullName ++ text "\n"
        ++ text "Parcel: " ++ intent.parcelDescription
        ++ text " (" ++ intent.parcelSize.value ++ text ")\n"
        ++ text "Amount paid: NGN " ++ amountNaira ++ text "\n\n"
        ++ text "Share the tracking link with the receiver so they can follow the parcel."
    html :=
      text "<p>Your payment was successful and your order has been placed.</p>"
        ++ tracking.html ++ labelHtml label
        ++ text "<ul>"
        ++ text "<li><strong>Drop off at:</strong> " ++ escapeHtml originNode.name
        ++ text ", " ++ escapeHtml originNode.address ++ text "</li>"
        ++ text "<li><strong>Collection at:</strong> " ++ escapeHtml destinationNode.name
        ++ text "</li>"
        ++ text "<li><strong>Receiver:</strong> " ++ escapeHtml intent.receiverFullName
        ++ text "</li>"
        ++ text "<li><strong>Parcel:</strong> " ++ escapeHtml intent.parcelDescription
        ++ text " (" ++ intent.parcelSize.value ++ text ")</li>"
        ++ text "<li><strong>Amount paid:</strong> NGN " ++ amountNaira ++ text "</li>"
        ++ text "</ul>"
        ++ text "<p>Share the tracking link with the receiver "
        ++ text "so they can follow the parcel.</p>"
    attachments := tracking.attachments }

/-! ## What the blocks show -/

section Blocks

variable {trackingCode url : Units}

def trackingMarkup (trackingCode url : Units) : Units :=
  text "<p><strong style=\"font-size:20px;letter-spacing:2px\">" ++ text "</strong></p>"
    ++ text "<p><img src=\"cid:" ++ QR_CONTENT_ID
    ++ text "\" width=\"160\" height=\"160\" alt=\"QR code for " ++ trackingCode ++ text "\"></p>"
    ++ text "<p><a href=\"" ++ url ++ text "\"></a></p>"

def trackingWords (trackingCode : Units) : Units :=
  text "Tracking code: " ++ trackingCode ++ text "Show this code at the station counter. "
    ++ text "Track this parcel"

theorem trackingHtml_shows (hcode : Stands trackingCode trackingCode) :
    Shows (trackingHtml trackingCode url) (trackingMarkup trackingCode url)
      (trackingWords trackingCode) := by
  have hquote : some quotationMark ∈ PLACES := by decide
  have hcodeLine : Shows
      (text "<p>Tracking code: <strong style=\"font-size:20px;letter-spacing:2px\">")
      (text "<p><strong style=\"font-size:20px;letter-spacing:2px\">")
      (text "Tracking code: ") := by decide
  have hsource : Reads (.plain none) (text "<p><img src=\"cid:") (.plain (some quotationMark))
      (text "<p><img src=\"cid:") [] := by decide
  have halt : Reads (.plain (some quotationMark))
      (text "\" width=\"160\" height=\"160\" alt=\"QR code for ") (.plain (some quotationMark))
      (text "\" width=\"160\" height=\"160\" alt=\"QR code for ") [] := by decide
  have hclose : Reads (.plain (some quotationMark)) (text "\"></p>") (.plain none)
      (text "\"></p>") [] := by decide
  have hlink : Reads (.plain none)
      (text "<p>Show this code at the station counter. <a href=\"") (.plain (some quotationMark))
      (text "<p><a href=\"") (text "Show this code at the station counter. ") := by decide
  have hend : Reads (.plain (some quotationMark)) (text "\">Track this parcel</a></p>")
      (.plain none) (text "\"></a></p>") (text "Track this parcel") := by decide
  have hstrong : Shows (text "</strong></p>") (text "</strong></p>") [] := by decide
  have hfirst := (hcodeLine.text hcode).tags hstrong
  have hid : Stands QR_CONTENT_ID QR_CONTENT_ID := stands_self (by decide)
  have himage := (((Reads.append hfirst hsource).value hquote hid).append halt).value hquote hcode
  have hall := (((himage.append hclose).append hlink).value hquote
    (escapeHtml_stands url)).append hend
  simpa [trackingHtml, trackingMarkup, trackingWords] using hall

def LABEL_STYLE : Units :=
  text "<p style=\"font-family:monospace;font-size:18px;border:2px dashed #999;"
    ++ text "padding:8px;display:inline-block\">"

def labelMarkup : Units :=
  text "<p>" ++ text "</p>" ++ LABEL_STYLE ++ text "<br>" ++ text "</p>"

def labelWords (label : LabelInstructions) : Units := label.note ++ label.lines.flatten

theorem labelHtml_shows (upper : UpperCase) (trackingCode name : Units) :
    Shows (labelHtml (labelInstructionsFor upper trackingCode name)) labelMarkup
      (labelWords (labelInstructionsFor upper trackingCode name)) := by
  have hopen : Shows (text "<p>") (text "<p>") [] := by decide
  have hclose : Shows (text "</p>") (text "</p>") [] := by decide
  have hbreak : Shows (text "<br>") (text "<br>") [] := by decide
  have hstyle : Shows LABEL_STYLE LABEL_STYLE [] := by decide +kernel
  have hplain : ∀ u ∈ (labelInstructionsFor upper trackingCode name).note, u ∉ SPECIAL := by
    simp only [labelInstructionsFor]
    decide +kernel
  have hfirst := ((hopen.text (stands_self hplain)).tags hclose).tags hstyle
  have hlines := ((hfirst.text (escapeHtml_stands trackingCode)).tags hbreak).text
    (escapeHtml_stands (text "TO: " ++ upper.apply name))
  have hall := hlines.tags hclose
  simpa [labelHtml, labelMarkup, labelWords, labelInstructionsFor, LABEL_STYLE,
    List.intercalate] using hall

end Blocks

/-! ## What the e-mails show -/

/-- The e-mails about a parcel, each with the texts in it. -/
inductive Mail
  | onItsWay (receiverEmail parcelDescription : Units) (destination : Station)
  | readyForCollection (receiverEmail parcelDescription : Units) (destination : Station)
      (collectionCode : Fin (10 ^ HANDOFF_CODE_LENGTH)) (codeTtlMinutes : Nat)
  | newCollectionCode (receiverEmail parcelDescription : Units) (destination : Station)
      (collectionCode : Fin (10 ^ HANDOFF_CODE_LENGTH)) (codeTtlMinutes : Nat)
  | returnStartedToSender (receiverEmail parcelDescription senderEmail : Units)
      (origin : Station)
  | returnStartedToReceiver (receiverEmail parcelDescription : Units)
  | senderCollectionCode (receiverEmail parcelDescription senderEmail : Units)
      (origin : Station) (collectionCode : Fin (10 ^ HANDOFF_CODE_LENGTH))
      (codeTtlMinutes : Nat)
  | orderConfirmed (intent : PaidIntent) (consumerEmail : Units)
      (originNode destinationNode : Station)

def Mail.enqueue (d : Tracking) (upper : UpperCase) (trackingCode : Units) :
    Mail → Except URIError Email
  | .onItsWay sentTo description destination =>
      enqueueOnItsWay d ⟨trackingCode, sentTo, description⟩ destination
  | .readyForCollection sentTo description destination draw minutes =>
      enqueueReadyForCollection d ⟨trackingCode, sentTo, description⟩ destination
        (generateHandoffCode draw) minutes
  | .newCollectionCode sentTo description destination draw minutes =>
      enqueueNewCollectionCode d ⟨trackingCode, sentTo, description⟩ destination
        (generateHandoffCode draw) minutes
  | .returnStartedToSender sentTo description senderEmail origin =>
      Emails.returnStartedToSender d ⟨trackingCode, sentTo, description⟩ senderEmail origin
  | .returnStartedToReceiver sentTo description =>
      Emails.returnStartedToReceiver d ⟨trackingCode, sentTo, description⟩
  | .senderCollectionCode sentTo description senderEmail origin draw minutes =>
      .ok (enqueueSenderCollectionCode ⟨trackingCode, sentTo, description⟩ senderEmail origin
        (generateHandoffCode draw) minutes)
  | .orderConfirmed intent consumerEmail originNode destinationNode =>
      Emails.orderConfirmed d upper intent trackingCode consumerEmail originNode destinationNode

def collectionMarkup : Units :=
  text "<p><strong style=\"font-size:20px\">" ++ text "</strong></p>"

/-- The markup of an e-mail: nothing in it comes from its texts. -/
def Mail.markup (trackingCode url : Units) : Mail → Units
  | .onItsWay _ _ _ =>
      text "<p>" ++ text "</p>" ++ trackingMarkup trackingCode url
        ++ text "<p><strong>" ++ text "</strong>" ++ text "</p>"
  | .readyForCollection _ _ _ _ _ | .newCollectionCode _ _ _ _ _ =>
      collectionMarkup ++ text "<p>" ++ text "</p><p>" ++ text "</p>"
        ++ trackingMarkup trackingCode url
  | .returnStartedToSender _ _ _ _ =>
      text "<p>" ++ text "<strong>" ++ text "</strong></p>" ++ text "<p></p>"
        ++ trackingMarkup trackingCode url
  | .returnStartedToReceiver _ _ =>
      text "<p>" ++ text "</p>" ++ trackingMarkup trackingCode url
  | .senderCollectionCode _ _ _ _ _ _ =>
      collectionMarkup ++ text "<p>" ++ text "</p>" ++ text "<p><strong>"
        ++ text "</strong></p>"
  | .orderConfirmed _ _ _ _ =>
      text "<p></p>" ++ trackingMarkup trackingCode url ++ labelMarkup ++ text "<ul>"
        ++ text "<li><strong></strong>" ++ text "</li>"
        ++ text "<li><strong></strong>" ++ text "</li>"
        ++ text "<li><strong></strong>" ++ text "</li>"
        ++ text "<li><strong></strong>" ++ text "</li>"
        ++ text "<li><strong></strong>" ++ text "</li>"
        ++ text "</ul>" ++ text "<p>" ++ text "</p>"

def collectionWords (collectionCode : Units) : Units :=
  text "Your collection code is: " ++ collectionCode

/-- The words of an e-mail, every text in them as it was typed. -/
def Mail.words (upper : UpperCase) (trackingCode : Units) : Mail → Units
  | .onItsWay _ description destination =>
      text "A parcel has been sent to you through Locoomo: " ++ description ++ text "."
        ++ trackingWords trackingCode
        ++ text "It will be ready for collection at " ++ whereOf destination
        ++ text ". We'll email you a collection code when it arrives — "
        ++ text "bring it and a form of ID."
  | .readyForCollection _ description destination draw minutes =>
      collectionWords (generateHandoffCode draw)
        ++ (text "Your parcel (" ++ description
          ++ text ") has arrived and is ready for collection.")
        ++ instructionsFor destination minutes ++ trackingWords trackingCode
  | .newCollectionCode _ description destination draw minutes =>
      collectionWords (generateHandoffCode draw)
        ++ (text "Here's a new collection code for your parcel (" ++ description ++ text ").")
        ++ instructionsFor destination minutes ++ trackingWords trackingCode
  | .returnStartedToSender _ description _ origin =>
      text "We couldn't complete the delivery of your parcel (" ++ description
        ++ text "). It's on its way back to " ++ whereOf origin ++ text "."
        ++ text "We'll email you a collection code when it's ready to pick up there."
        ++ trackingWords trackingCode
  | .returnStartedToReceiver _ description =>
      text "We couldn't complete the delivery of the parcel sent to you (" ++ description
        ++ text "), so it's being returned to the sender. "
        ++ text "You don't need to do anything." ++ trackingWords trackingCode
  | .senderCollectionCode _ description _ origin draw minutes =>
      collectionWords (generateHandoffCode draw)
        ++ senderInstructions description origin minutes
        ++ text "Tracking code: " ++ trackingCode
  | .orderConfirmed intent _ originNode destinationNode =>
      text "Your payment was successful and your order has been placed."
        ++ trackingWords trackingCode
        ++ labelWords (labelInstructionsFor upper trackingCode destinationNode.name)
        ++ text "Drop off at: " ++ originNode.name ++ text ", " ++ originNode.address
        ++ text "Collection at: " ++ destinationNode.name
        ++ text "Receiver: " ++ intent.receiverFullName
        ++ text "Parcel: " ++ intent.parcelDescription
        ++ text " (" ++ intent.parcelSize.value ++ text ")"
        ++ text "Amount paid: NGN " ++ koboToNaira intent.amountKobo
        ++ text "Share the tracking link with the receiver "
        ++ text "so they can follow the parcel."

section Mails

variable {trackingCode url : Units}

/-- What the e-mails have in common. -/
theorem collection_shows (draw : Fin (10 ^ HANDOFF_CODE_LENGTH)) :
    Shows (text "<p>Your collection code is: <strong style=\"font-size:20px\">"
        ++ generateHandoffCode draw ++ text "</strong></p>")
      collectionMarkup (collectionWords (generateHandoffCode draw)) := by
  have hopen : Shows (text "<p>Your collection code is: <strong style=\"font-size:20px\">")
      (text "<p><strong style=\"font-size:20px\">") (text "Your collection code is: ") := by
    decide +kernel
  have hclose : Shows (text "</strong></p>") (text "</strong></p>") [] := by decide
  exact (hopen.text (handoffCode_stands draw)).tags hclose

/-- The e-mail is sent, and reads as this markup around these words. -/
def Mail.Reads (d : Tracking) (upper : UpperCase) (trackingCode url : Units) (mail : Mail) : Prop :=
  ∃ email, mail.enqueue d upper trackingCode = .ok email ∧
    Shows email.html (mail.markup trackingCode url) (mail.words upper trackingCode)

variable {d : Tracking} {upper : UpperCase} {tracking : EmailBlock}

theorem senderCollectionCode_reads (hcode : Stands trackingCode trackingCode)
    (sentTo description senderEmail : Units) (origin : Station)
    (draw : Fin (10 ^ HANDOFF_CODE_LENGTH)) (minutes : Nat) :
    (Mail.senderCollectionCode sentTo description senderEmail origin draw minutes).Reads d upper
      trackingCode url := by
  unfold Mail.Reads Mail.enqueue enqueueSenderCollectionCode
  refine ⟨_, rfl, ?_⟩
  dsimp only [Mail.markup, Mail.words]
  have hinstructions := escapeHtml_stands (senderInstructions description origin minutes)
  refine (((((collection_shows draw).tags ?_).text hinstructions).tags ?_).append ?_).text
    hcode |>.tags ?_
  all_goals decide +kernel

theorem parcelSize_stands (size : ParcelSize) : Stands size.value size.value := by
  cases size <;> exact stands_self (by decide)

section Tracked

variable (hblock : trackingBlock d trackingCode = .ok tracking)
  (htracking : Shows tracking.html (trackingMarkup trackingCode url) (trackingWords trackingCode))

include hblock htracking

theorem onItsWay_reads (sentTo description : Units) (destination : Station) :
    (Mail.onItsWay sentTo description destination).Reads d upper trackingCode url := by
  unfold Mail.Reads Mail.enqueue enqueueOnItsWay
  dsimp only
  rw [hblock]
  refine ⟨_, rfl, ?_⟩
  dsimp only [Mail.markup, Mail.words]
  have hdescription := escapeHtml_stands description
  have hwhere := escapeHtml_stands (whereOf destination)
  refine (((((Shows.text ?_ hdescription).append ?_).append htracking).append ?_).text
    hwhere).append ?_ |>.append ?_
  all_goals decide +kernel

/-- The two e-mails with a code for the receiver. -/
theorem collectionCode_reads (sentTo description subject intro : Units)
    (destination : Station) (draw : Fin (10 ^ HANDOFF_CODE_LENGTH)) (minutes : Nat) :
    ∃ email, enqueueCollectionCode d ⟨trackingCode, sentTo, description⟩ destination
        (generateHandoffCode draw) minutes subject intro = .ok email ∧
      Shows email.html
        (collectionMarkup ++ text "<p>" ++ text "</p><p>" ++ text "</p>"
          ++ trackingMarkup trackingCode url)
        (collectionWords (generateHandoffCode draw) ++ intro
          ++ instructionsFor destination minutes ++ trackingWords trackingCode) := by
  unfold enqueueCollectionCode
  dsimp only
  rw [hblock]
  refine ⟨_, rfl, ?_⟩
  dsimp only
  have hintro := escapeHtml_stands intro
  have hinstructions := escapeHtml_stands (instructionsFor destination minutes)
  refine (((((collection_shows draw).tags ?_).text hintro).tags ?_).text hinstructions).tags
    ?_ |>.append htracking
  all_goals decide +kernel

theorem returnStartedToSender_reads (sentTo description senderEmail : Units)
    (origin : Station) :
    (Mail.returnStartedToSender sentTo description senderEmail origin).Reads d upper
      trackingCode url := by
  unfold Mail.Reads Mail.enqueue returnStartedToSender
  dsimp only
  rw [hblock]
  refine ⟨_, rfl, ?_⟩
  dsimp only [Mail.markup, Mail.words]
  have hdescription := escapeHtml_stands description
  have hwhere := escapeHtml_stands (whereOf origin)
  refine ((((Shows.text ?_ hdescription).append ?_).text hwhere).append ?_).append
    ?_ |>.append htracking
  all_goals decide +kernel

theorem returnStartedToReceiver_reads (sentTo description : Units) :
    (Mail.returnStartedToReceiver sentTo description).Reads d upper trackingCode url := by
  unfold Mail.Reads Mail.enqueue returnStartedToReceiver
  dsimp only
  rw [hblock]
  refine ⟨_, rfl, ?_⟩
  dsimp only [Mail.markup, Mail.words]
  have hdescription := escapeHtml_stands description
  refine (((Shows.text ?_ hdescription).say ?_).append ?_).append htracking
  all_goals decide +kernel

theorem orderConfirmed_reads (intent : PaidIntent) (consumerEmail : Units)
    (originNode destinationNode : Station) :
    (Mail.orderConfirmed intent consumerEmail originNode destinationNode).Reads d upper
      trackingCode url := by
  unfold Mail.Reads Mail.enqueue orderConfirmed
  dsimp only
  rw [hblock]
  refine ⟨_, rfl, ?_⟩
  dsimp only [Mail.markup, Mail.words]
  have hlabel := labelHtml_shows upper trackingCode destinationNode.name
  have hname := escapeHtml_stands originNode.name
  have haddress := escapeHtml_stands originNode.address
  have hdestination := escapeHtml_stands destinationNode.name
  have hreceiver := escapeHtml_stands intent.receiverFullName
  have hdescription := escapeHtml_stands intent.parcelDescription
  have hsize := parcelSize_stands intent.parcelSize
  have hamount := koboToNaira_stands intent.amountKobo
  have hcomma : Stands (text ", ") (text ", ") := stands_self (by decide)
  have hbracket : Stands (text " (") (text " (") := stands_self (by decide)
  refine ((((Shows.append ?_ htracking).append hlabel).tags ?_).append ?_).text hname
    |>.text hcomma |>.text haddress |>.tags ?_ |>.append ?_ |>.text hdestination |>.tags ?_
    |>.append ?_ |>.text hreceiver |>.tags ?_ |>.append ?_ |>.text hdescription
    |>.text hbracket |>.text hsize |>.append ?_ |>.append ?_ |>.text hamount |>.tags ?_
    |>.tags ?_ |>.append ?_ |>.append ?_
  all_goals decide +kernel

end Tracked

end Mails

/-! ## Links -/

/-- The link of a code: nothing in a code needs encoding. -/
def trackingUrl (d : Tracking) (trackingCode : Units) : Units :=
  (d.FRONTEND_URL.rdropWhile fun u => u = unit '/') ++ text "/track/" ++ trackingCode
    ++ text "?t=" ++ tokenFor d.link trackingCode

theorem trackingBlock_reads (d : Tracking) (draw : Fin CODE_LENGTH → Fin ALPHABET.length) :
    ∃ tracking, trackingBlock d (generateTrackingCode draw) = .ok tracking ∧
      Shows tracking.html
        (trackingMarkup (generateTrackingCode draw) (trackingUrl d (generateTrackingCode draw)))
        (trackingWords (generateTrackingCode draw)) := by
  have hurl : urlFor d.FRONTEND_URL (tokenFor d.link) (generateTrackingCode draw) =
      .ok (trackingUrl d (generateTrackingCode draw)) := by
    have hall : ∀ u ∈ PREFIX ++ [unit '-'] ++ ALPHABET, isUnreserved u = true := by decide
    have hencoded := encodeURIComponent_unreserved fun u hu => hall u (trackingCode_units draw u hu)
    unfold urlFor
    rw [hencoded]
    rfl
  unfold trackingBlock
  rw [hurl]
  exact ⟨_, rfl, trackingHtml_shows (trackingCode_stands draw)⟩

/-- **What somebody typed is shown, and is never markup.** Every e-mail about a
parcel goes out, and a reader of its HTML finds the markup of its template, closed,
with the parcel's code and link in it, around the template's words, with every
description, name and address in its place as it was typed; the label has the name
of the destination in upper case. -/
theorem typed_texts_are_shown (d : Tracking) (upper : UpperCase)
    (draw : Fin CODE_LENGTH → Fin ALPHABET.length) (mail : Mail) :
    mail.Reads d upper (generateTrackingCode draw)
      (trackingUrl d (generateTrackingCode draw)) := by
  obtain ⟨tracking, hblock, htracking⟩ := trackingBlock_reads d draw
  cases mail with
  | onItsWay sentTo description destination =>
      exact onItsWay_reads hblock htracking sentTo description destination
  | readyForCollection sentTo description destination code minutes =>
      exact collectionCode_reads hblock htracking sentTo description _ _ destination code minutes
  | newCollectionCode sentTo description destination code minutes =>
      exact collectionCode_reads hblock htracking sentTo description _ _ destination code minutes
  | returnStartedToSender sentTo description senderEmail origin =>
      exact returnStartedToSender_reads hblock htracking sentTo description senderEmail origin
  | returnStartedToReceiver sentTo description =>
      exact returnStartedToReceiver_reads hblock htracking sentTo description
  | senderCollectionCode sentTo description senderEmail origin code minutes =>
      exact senderCollectionCode_reads (trackingCode_stands draw) sentTo description senderEmail
        origin code minutes
  | orderConfirmed intent consumerEmail originNode destinationNode =>
      exact orderConfirmed_reads hblock htracking intent consumerEmail originNode destinationNode

end Locoomo.Emails
