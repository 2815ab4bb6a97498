import TenderDesk.Schema.Record

/-!
# Rfx — the records of the sourcing platform and the messages about them

The platform merges what it is sent: a member that is absent leaves the field as it is, and one
that is present replaces it, also when it is null or empty. So every optional member is a `Slot`,
and a record is sent with exactly the members that were set.

* `Rfx` is a record, `Rfx.key` one that holds its identifiers only.
* `Change` asks for a record to be written, `Receipt` is the answer.
* `Snapshot` is a record as the platform shows it.
* `PublishOrder` asks for a record to be published.
-/

namespace TenderDesk
namespace Sourcing

open Schema

/-! ## Suppliers -/

structure Company where
  id : Slot Int := .absent
  name : Slot String := .absent
  deriving DecidableEq, Repr, Inhabited

def Company.table : List (Entry Company) :=
  [.slot "id" "id" .whole (·.id) fun v r => { r with id := v },
   .slot "name" "name" .text (·.name) fun v r => { r with name := v }]

def Company.codec : Codec Company :=
  .record table {}

structure Supplier where
  company : Slot Company := .absent
  deriving DecidableEq, Repr, Inhabited

def Supplier.table : List (Entry Supplier) :=
  [.slot "companyData" "company_data" Company.codec (·.company)
    fun v r => { r with company := v }]

def Supplier.codec : Codec Supplier :=
  .record table {}

structure SupplierList where
  suppliers : Slot (List Supplier) := .absent
  deriving DecidableEq, Repr, Inhabited

def SupplierList.table : List (Entry SupplierList) :=
  [.slot "supplier" "supplier" (.list Supplier.codec) (·.suppliers)
    fun v r => { r with suppliers := v }]

def SupplierList.codec : Codec SupplierList :=
  .record table {}

/-! ## Attachments -/

structure Attachment where
  file : Slot Int := .absent
  /-- The name as the platform writes it, which need not be one that a document can have. -/
  name : Slot RawText := .absent
  description : Slot String := .absent
  size : Slot Int := .absent
  deriving DecidableEq, Repr, Inhabited

def Attachment.table : List (Entry Attachment) :=
  [.slot "fileId" "file_id" .whole (·.file) fun v r => { r with file := v },
   .slot "fileName" "file_name" .raw (·.name) fun v r => { r with name := v },
   .slot "fileDescription" "file_description" .text (·.description)
    fun v r => { r with description := v },
   .slot "fileSize" "file_size" .whole (·.size) fun v r => { r with size := v }]

def Attachment.codec : Codec Attachment :=
  .record table {}

structure AttachmentList where
  attachments : Slot (List Attachment) := .absent
  deriving DecidableEq, Repr, Inhabited

def AttachmentList.table : List (Entry AttachmentList) :=
  [.slot "attachment" "attachment" (.list Attachment.codec) (·.attachments)
    fun v r => { r with attachments := v }]

def AttachmentList.codec : Codec AttachmentList :=
  .record table {}

/-! ## Head of a record -/

/-- A company or a user of the platform, known by its id. -/
structure Party where
  id : Slot String := .absent
  deriving DecidableEq, Repr, Inhabited

def Party.table : List (Entry Party) :=
  [.slot "id" "id" .text (·.id) fun v r => { r with id := v }]

def Party.codec : Codec Party :=
  .record table {}

structure Head where
  id : Slot String := .absent
  reference : Slot String := .absent
  title : Slot String := .absent
  description : Slot String := .absent
  statusCode : Slot Int := .absent
  status : Slot String := .absent
  rfiFlag : Slot Int := .absent
  sort : Slot String := .absent
  template : Slot String := .absent
  tender : Slot String := .absent
  buyer : Slot Party := .absent
  owner : Slot Party := .absent
  deriving DecidableEq, Repr, Inhabited

def Head.table : List (Entry Head) :=
  [.slot "rfxId" "rfx_id" .text (·.id) fun v r => { r with id := v },
   .slot "rfxReferenceCode" "rfx_reference_code" .text (·.reference)
    fun v r => { r with reference := v },
   .slot "shortDescription" "short_description" .text (·.title)
    fun v r => { r with title := v },
   .slot "longDescription" "long_description" .text (·.description)
    fun v r => { r with description := v },
   .slot "statusCode" "status_code" .whole (·.statusCode)
    fun v r => { r with statusCode := v },
   .slot "status" "status" .text (·.status) fun v r => { r with status := v },
   .slot "rfiFlag" "rfi_flag" .whole (·.rfiFlag) fun v r => { r with rfiFlag := v },
   .slot "rfxType" "rfx_type" .text (·.sort) fun v r => { r with sort := v },
   .slot "templateReferenceCode" "template_reference_code" .text (·.template)
    fun v r => { r with template := v },
   .slot "tenderReferenceCode" "tender_reference_code" .text (·.tender)
    fun v r => { r with tender := v },
   .slot "buyerCompany" "buyer_company" Party.codec (·.buyer)
    fun v r => { r with buyer := v },
   .slot "ownerUser" "owner_user" Party.codec (·.owner) fun v r => { r with owner := v }]

def Head.codec : Codec Head :=
  .record table {}

/-! ## Additional information -/

structure NoteValue where
  value : Slot String := .absent
  deriving DecidableEq, Repr, Inhabited

def NoteValue.table : List (Entry NoteValue) :=
  [.slot "value" "value" .text (·.value) fun v r => { r with value := v }]

def NoteValue.codec : Codec NoteValue :=
  .record table {}

structure NoteValues where
  values : Slot (List NoteValue) := .absent
  deriving DecidableEq, Repr, Inhabited

def NoteValues.table : List (Entry NoteValues) :=
  [.slot "value" "value" (.list NoteValue.codec) (·.values)
    fun v r => { r with values := v }]

def NoteValues.codec : Codec NoteValues :=
  .record table {}

structure Note where
  name : Slot String := .absent
  label : Slot String := .absent
  locale : Slot String := .absent
  values : Slot NoteValues := .absent
  deriving DecidableEq, Repr, Inhabited

def Note.table : List (Entry Note) :=
  [.slot "name" "name" .text (·.name) fun v r => { r with name := v },
   .slot "label" "label" .text (·.label) fun v r => { r with label := v },
   .slot "labelLocale" "label_locale" .text (·.locale) fun v r => { r with locale := v },
   .slot "values" "values" NoteValues.codec (·.values) fun v r => { r with values := v }]

def Note.codec : Codec Note :=
  .record table {}

structure NoteList where
  notes : Slot (List Note) := .absent
  deriving DecidableEq, Repr, Inhabited

def NoteList.table : List (Entry NoteList) :=
  [.slot "additionalInfo" "additional_info" (.list Note.codec) (·.notes)
    fun v r => { r with notes := v }]

def NoteList.codec : Codec NoteList :=
  .record table {}

/-- A note with one value; its label is its name. -/
def Note.of (name value : String) : Note :=
  { name := .set name, label := .set name, locale := .set "en_GB",
    values := .set { values := .set [{ value := .set value }] } }

/-! ## Records -/

structure Rfx where
  head : Slot Head := .absent
  notes : Slot NoteList := .absent
  suppliers : Slot SupplierList := .absent
  buyerAttachments : Slot AttachmentList := .absent
  sellerAttachments : Slot AttachmentList := .absent
  deriving DecidableEq, Repr, Inhabited

def Rfx.table : List (Entry Rfx) :=
  [.slot "rfxSetting" "rfx_setting" Head.codec (·.head) fun v r => { r with head := v },
   .slot "rfxAdditionalInfoList" "rfx_additional_info_list" NoteList.codec (·.notes)
    fun v r => { r with notes := v },
   .slot "suppliersList" "suppliers_list" SupplierList.codec (·.suppliers)
    fun v r => { r with suppliers := v },
   .slot "buyerAttachmentsList" "buyer_attachments_list" AttachmentList.codec
    (·.buyerAttachments) fun v r => { r with buyerAttachments := v },
   .slot "sellerAttachmentsList" "seller_attachments_list" AttachmentList.codec
    (·.sellerAttachments) fun v r => { r with sellerAttachments := v }]

def Rfx.codec : Codec Rfx :=
  .record table {}

/-- The head that only tells which record is meant. -/
def Head.key (id reference : Option String) : Head :=
  { id := .ofOption id, reference := .ofOption reference }

/-- A record that only tells which one it is, the start of every partial change. -/
def Rfx.key (id reference : Option String) : Rfx :=
  { head := .set (Head.key id reference) }

/-- The suppliers with the given company ids, and nothing else about them. -/
def SupplierList.ofCompanies (ids : List Int) : SupplierList :=
  { suppliers := .set (ids.map fun id => { company := .set { id := .set id } }) }

/-! ## Messages -/

/-- What is to be done with a record that is sent. -/
inductive Command
  | createFromTemplate
  | createUpdate
  | updateReset
  deriving DecidableEq, Repr, Inhabited

namespace Command

def all : List Command :=
  [.createFromTemplate, .createUpdate, .updateReset]

def name : Command → String
  | .createFromTemplate => "CREATE_FROM_TEMPLATE"
  | .createUpdate => "CREATEUPDATE"
  | .updateReset => "UPDATE_RESET"

def ofName? (s : String) : Option Command :=
  all.find? fun a => a.name == s

def codec : Codec Command :=
  .choice ofName? name

@[simp] theorem ofName?_name (a : Command) : ofName? a.name = some a := by
  cases a <;> decide

end Command

structure Change where
  command : Command
  rfx : Rfx
  deriving DecidableEq, Repr, Inhabited

def Change.table : List (Entry Change) :=
  [.required "operationCode" "operation_code" Command.codec (·.command)
    fun v r => { r with command := v },
   .required "rfx" "rfx" Rfx.codec (·.rfx) fun v r => { r with rfx := v }]

def Change.codec : Codec Change :=
  .record table ⟨.createUpdate, {}⟩

structure Receipt where
  code : Slot Int := .absent
  message : Slot String := .absent
  id : Slot String := .absent
  reference : Slot String := .absent
  deriving DecidableEq, Repr, Inhabited

def Receipt.table : List (Entry Receipt) :=
  [.slot "returnCode" "return_code" .whole (·.code) fun v r => { r with code := v },
   .slot "returnMessage" "return_message" .text (·.message)
    fun v r => { r with message := v },
   .slot "rfxId" "rfx_id" .text (·.id) fun v r => { r with id := v },
   .slot "rfxReferenceCode" "rfx_reference_code" .text (·.reference)
    fun v r => { r with reference := v }]

def Receipt.codec : Codec Receipt :=
  .record table {}

/-- A receipt of a change that was made. -/
def Receipt.isSuccess (r : Receipt) : Bool :=
  r.code.get? == some 0 && r.message.get? == some "OK"

structure Snapshot where
  head : Slot Head := .absent
  suppliers : Slot SupplierList := .absent
  buyerAttachments : Slot AttachmentList := .absent
  sellerAttachments : Slot AttachmentList := .absent
  deriving DecidableEq, Repr, Inhabited

def Snapshot.table : List (Entry Snapshot) :=
  [.slot "rfxSetting" "rfx_setting" Head.codec (·.head) fun v r => { r with head := v },
   .slot "suppliersList" "suppliers_list" SupplierList.codec (·.suppliers)
    fun v r => { r with suppliers := v },
   .slot "buyerAttachmentsList" "buyer_attachments_list" AttachmentList.codec
    (·.buyerAttachments) fun v r => { r with buyerAttachments := v },
   .slot "sellerAttachmentsList" "seller_attachments_list" AttachmentList.codec
    (·.sellerAttachments) fun v r => { r with sellerAttachments := v }]

def Snapshot.codec : Codec Snapshot :=
  .record table {}

namespace Snapshot

/-- The suppliers that a record lists. -/
def supplierItems (s : Snapshot) : List Supplier :=
  (s.suppliers.get?.bind (·.suppliers.get?)).getD []

/-- The attachments that the buyer added. -/
def buyerItems (s : Snapshot) : List Attachment :=
  (s.buyerAttachments.get?.bind (·.attachments.get?)).getD []

/-- The attachments that suppliers added. -/
def sellerItems (s : Snapshot) : List Attachment :=
  (s.sellerAttachments.get?.bind (·.attachments.get?)).getD []

/-- The status code that a record reports. -/
def statusCode? (s : Snapshot) : Option Int :=
  s.head.get?.bind (·.statusCode.get?)

end Snapshot

/-- The id of the company of a supplier, when both are given. -/
def Supplier.companyId? (s : Supplier) : Option Int :=
  s.company.get?.bind (·.id.get?)

structure PublishOrder where
  id : String
  reference : Slot String := .absent
  operator : Party
  closing : Slot String := .absent
  deriving DecidableEq, Repr, Inhabited

def PublishOrder.table : List (Entry PublishOrder) :=
  [.required "rfxId" "rfx_id" .text (·.id) fun v r => { r with id := v },
   .slot "rfxReferenceCode" "rfx_reference_code" .text (·.reference)
    fun v r => { r with reference := v },
   .required "operatorUser" "operator_user" Party.codec (·.operator)
    fun v r => { r with operator := v },
   .slot "newClosingDate" "new_closing_date" .text (·.closing)
    fun v r => { r with closing := v }]

def PublishOrder.codec : Codec PublishOrder :=
  .record table { id := "", operator := {} }

end Sourcing
end TenderDesk
