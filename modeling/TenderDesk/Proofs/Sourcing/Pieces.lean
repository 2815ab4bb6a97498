import TenderDesk.Proofs.Schema.Spelling
import TenderDesk.Sourcing.Rfx

/-!
# Pieces — everything that is sent to the platform or read from it

* `Piece` lists the structures that messages of the platform are made of, with the fields of each.
* `Piece.sent_and_read`: every piece sends exactly the fields that are set, is read back with the
  same fields set at every depth, and is read alike however its keys are spelled.
-/

namespace TenderDesk
namespace Sourcing

open Schema

/-! ## Suppliers -/

def Company.fields : List (FieldOf Company) :=
  [{ name := "id", value := fun r => r.id.map .int },
   { name := "name", value := fun r => r.name.map .ofText }]

def Supplier.fields : List (FieldOf Supplier) :=
  [{ name := "company_data", value := fun r => r.company.map Company.codec.write,
     shape := .ofFields Company.fields }]

def SupplierList.fields : List (FieldOf SupplierList) :=
  [{ name := "supplier",
     value := fun r => r.suppliers.map fun items => .arr (items.map Supplier.codec.write),
     shape := .list (.ofFields Supplier.fields) }]

/-! ## Attachments -/

def Attachment.fields : List (FieldOf Attachment) :=
  [{ name := "file_id", value := fun r => r.file.map .int },
   { name := "file_name", value := fun r => r.name.map .str },
   { name := "file_description", value := fun r => r.description.map .ofText },
   { name := "file_size", value := fun r => r.size.map .int }]

def AttachmentList.fields : List (FieldOf AttachmentList) :=
  [{ name := "attachment",
     value := fun r => r.attachments.map fun items => .arr (items.map Attachment.codec.write),
     shape := .list (.ofFields Attachment.fields) }]

/-! ## Head of a record -/

def Party.fields : List (FieldOf Party) :=
  [{ name := "id", value := fun r => r.id.map .ofText }]

def Head.fields : List (FieldOf Head) :=
  [{ name := "rfx_id", value := fun r => r.id.map .ofText },
   { name := "rfx_reference_code", value := fun r => r.reference.map .ofText },
   { name := "short_description", value := fun r => r.title.map .ofText },
   { name := "long_description", value := fun r => r.description.map .ofText },
   { name := "status_code", value := fun r => r.statusCode.map .int },
   { name := "status", value := fun r => r.status.map .ofText },
   { name := "rfi_flag", value := fun r => r.rfiFlag.map .int },
   { name := "rfx_type", value := fun r => r.sort.map .ofText },
   { name := "template_reference_code", value := fun r => r.template.map .ofText },
   { name := "tender_reference_code", value := fun r => r.tender.map .ofText },
   { name := "buyer_company", value := fun r => r.buyer.map Party.codec.write,
     shape := .ofFields Party.fields },
   { name := "owner_user", value := fun r => r.owner.map Party.codec.write,
     shape := .ofFields Party.fields }]

/-! ## Additional information -/

def NoteValue.fields : List (FieldOf NoteValue) :=
  [{ name := "value", value := fun r => r.value.map .ofText }]

def NoteValues.fields : List (FieldOf NoteValues) :=
  [{ name := "value",
     value := fun r => r.values.map fun items => .arr (items.map NoteValue.codec.write),
     shape := .list (.ofFields NoteValue.fields) }]

def Note.fields : List (FieldOf Note) :=
  [{ name := "name", value := fun r => r.name.map .ofText },
   { name := "label", value := fun r => r.label.map .ofText },
   { name := "label_locale", value := fun r => r.locale.map .ofText },
   { name := "values", value := fun r => r.values.map NoteValues.codec.write,
     shape := .ofFields NoteValues.fields }]

def NoteList.fields : List (FieldOf NoteList) :=
  [{ name := "additional_info",
     value := fun r => r.notes.map fun items => .arr (items.map Note.codec.write),
     shape := .list (.ofFields Note.fields) }]

/-! ## Records and messages -/

def Rfx.fields : List (FieldOf Rfx) :=
  [{ name := "rfx_setting", value := fun r => r.head.map Head.codec.write,
     shape := .ofFields Head.fields },
   { name := "rfx_additional_info_list", value := fun r => r.notes.map NoteList.codec.write,
     shape := .ofFields NoteList.fields },
   { name := "suppliers_list", value := fun r => r.suppliers.map SupplierList.codec.write,
     shape := .ofFields SupplierList.fields },
   { name := "buyer_attachments_list",
     value := fun r => r.buyerAttachments.map AttachmentList.codec.write,
     shape := .ofFields AttachmentList.fields },
   { name := "seller_attachments_list",
     value := fun r => r.sellerAttachments.map AttachmentList.codec.write,
     shape := .ofFields AttachmentList.fields }]

def Snapshot.fields : List (FieldOf Snapshot) :=
  [{ name := "rfx_setting", value := fun r => r.head.map Head.codec.write,
     shape := .ofFields Head.fields },
   { name := "suppliers_list", value := fun r => r.suppliers.map SupplierList.codec.write,
     shape := .ofFields SupplierList.fields },
   { name := "buyer_attachments_list",
     value := fun r => r.buyerAttachments.map AttachmentList.codec.write,
     shape := .ofFields AttachmentList.fields },
   { name := "seller_attachments_list",
     value := fun r => r.sellerAttachments.map AttachmentList.codec.write,
     shape := .ofFields AttachmentList.fields }]

def Change.fields : List (FieldOf Change) :=
  [{ name := "operation_code", value := fun r => .set (.str r.command.name) },
   { name := "rfx", value := fun r => .set (Rfx.codec.write r.rfx),
     shape := .ofFields Rfx.fields }]

def Receipt.fields : List (FieldOf Receipt) :=
  [{ name := "return_code", value := fun r => r.code.map .int },
   { name := "return_message", value := fun r => r.message.map .ofText },
   { name := "rfx_id", value := fun r => r.id.map .ofText },
   { name := "rfx_reference_code", value := fun r => r.reference.map .ofText }]

def PublishOrder.fields : List (FieldOf PublishOrder) :=
  [{ name := "rfx_id", value := fun r => .set (.str r.id) },
   { name := "rfx_reference_code", value := fun r => r.reference.map .ofText },
   { name := "operator_user", value := fun r => .set (Party.codec.write r.operator),
     shape := .ofFields Party.fields },
   { name := "new_closing_date", value := fun r => r.closing.map .ofText }]

/-! ## Pieces -/

/-- What messages of the platform are made of. Buyers, owners and operators are parties. -/
inductive Piece
  | company
  | supplier
  | supplierList
  | attachment
  | attachmentList
  | party
  | head
  | noteValue
  | noteValues
  | note
  | noteList
  | rfx
  | snapshot
  | change
  | receipt
  | publishOrder
  deriving DecidableEq, Repr

namespace Piece

def Value : Piece → Type
  | company => Company
  | supplier => Supplier
  | supplierList => SupplierList
  | attachment => Attachment
  | attachmentList => AttachmentList
  | party => Party
  | head => Head
  | noteValue => NoteValue
  | noteValues => NoteValues
  | note => Note
  | noteList => NoteList
  | rfx => Rfx
  | snapshot => Snapshot
  | change => Change
  | receipt => Receipt
  | publishOrder => PublishOrder

def table : (p : Piece) → List (Entry p.Value)
  | company => Company.table
  | supplier => Supplier.table
  | supplierList => SupplierList.table
  | attachment => Attachment.table
  | attachmentList => AttachmentList.table
  | party => Party.table
  | head => Head.table
  | noteValue => NoteValue.table
  | noteValues => NoteValues.table
  | note => Note.table
  | noteList => NoteList.table
  | rfx => Rfx.table
  | snapshot => Snapshot.table
  | change => Change.table
  | receipt => Receipt.table
  | publishOrder => PublishOrder.table

def codec : (p : Piece) → Codec p.Value
  | company => Company.codec
  | supplier => Supplier.codec
  | supplierList => SupplierList.codec
  | attachment => Attachment.codec
  | attachmentList => AttachmentList.codec
  | party => Party.codec
  | head => Head.codec
  | noteValue => NoteValue.codec
  | noteValues => NoteValues.codec
  | note => Note.codec
  | noteList => NoteList.codec
  | rfx => Rfx.codec
  | snapshot => Snapshot.codec
  | change => Change.codec
  | receipt => Receipt.codec
  | publishOrder => PublishOrder.codec

def fields : (p : Piece) → List (FieldOf p.Value)
  | company => Company.fields
  | supplier => Supplier.fields
  | supplierList => SupplierList.fields
  | attachment => Attachment.fields
  | attachmentList => AttachmentList.fields
  | party => Party.fields
  | head => Head.fields
  | noteValue => NoteValue.fields
  | noteValues => NoteValues.fields
  | note => Note.fields
  | noteList => NoteList.fields
  | rfx => Rfx.fields
  | snapshot => Snapshot.fields
  | change => Change.fields
  | receipt => Receipt.fields
  | publishOrder => PublishOrder.fields

def shape (p : Piece) : Shape :=
  .ofFields p.fields

theorem labelled (p : Piece) : Labelled p.table := by
  cases p <;> decide +kernel

theorem apart (p : Piece) : Apart p.fields := by
  cases p <;> decide +kernel

end Piece

/-! ## Reading back what was sent -/

theorem Company.conveys : Company.codec.Conveys Company.fields :=
  Portrays.conveys
    (.cons (Entry.slot_mirrors Codec.whole_faithful _ _) <|
     .cons (Entry.slot_mirrors Codec.text_faithful _ _) .nil)
    (Piece.labelled .company) (Piece.apart .company) fun _ => rfl

theorem Supplier.conveys : Supplier.codec.Conveys Supplier.fields :=
  Portrays.conveys
    (.cons (Entry.slot_mirrors Company.conveys.faithful _ _) .nil)
    (Piece.labelled .supplier) (Piece.apart .supplier) fun _ => rfl

theorem SupplierList.conveys : SupplierList.codec.Conveys SupplierList.fields :=
  Portrays.conveys
    (.cons (Entry.slot_mirrors (Codec.list_faithful Supplier.conveys.faithful) _ _) .nil)
    (Piece.labelled .supplierList) (Piece.apart .supplierList) fun _ => rfl

theorem Attachment.conveys : Attachment.codec.Conveys Attachment.fields :=
  Portrays.conveys
    (.cons (Entry.slot_mirrors Codec.whole_faithful _ _) <|
     .cons (Entry.slot_mirrors Codec.raw_faithful _ _) <|
     .cons (Entry.slot_mirrors Codec.text_faithful _ _) <|
     .cons (Entry.slot_mirrors Codec.whole_faithful _ _) .nil)
    (Piece.labelled .attachment) (Piece.apart .attachment) fun _ => rfl

theorem AttachmentList.conveys : AttachmentList.codec.Conveys AttachmentList.fields :=
  Portrays.conveys
    (.cons (Entry.slot_mirrors (Codec.list_faithful Attachment.conveys.faithful) _ _) .nil)
    (Piece.labelled .attachmentList) (Piece.apart .attachmentList) fun _ => rfl

theorem Party.conveys : Party.codec.Conveys Party.fields :=
  Portrays.conveys
    (.cons (Entry.slot_mirrors Codec.text_faithful _ _) .nil)
    (Piece.labelled .party) (Piece.apart .party) fun _ => rfl

theorem Head.conveys : Head.codec.Conveys Head.fields :=
  Portrays.conveys
    (.cons (Entry.slot_mirrors Codec.text_faithful _ _) <|
     .cons (Entry.slot_mirrors Codec.text_faithful _ _) <|
     .cons (Entry.slot_mirrors Codec.text_faithful _ _) <|
     .cons (Entry.slot_mirrors Codec.text_faithful _ _) <|
     .cons (Entry.slot_mirrors Codec.whole_faithful _ _) <|
     .cons (Entry.slot_mirrors Codec.text_faithful _ _) <|
     .cons (Entry.slot_mirrors Codec.whole_faithful _ _) <|
     .cons (Entry.slot_mirrors Codec.text_faithful _ _) <|
     .cons (Entry.slot_mirrors Codec.text_faithful _ _) <|
     .cons (Entry.slot_mirrors Codec.text_faithful _ _) <|
     .cons (Entry.slot_mirrors Party.conveys.faithful _ _) <|
     .cons (Entry.slot_mirrors Party.conveys.faithful _ _) .nil)
    (Piece.labelled .head) (Piece.apart .head) fun _ => rfl

theorem NoteValue.conveys : NoteValue.codec.Conveys NoteValue.fields :=
  Portrays.conveys
    (.cons (Entry.slot_mirrors Codec.text_faithful _ _) .nil)
    (Piece.labelled .noteValue) (Piece.apart .noteValue) fun _ => rfl

theorem NoteValues.conveys : NoteValues.codec.Conveys NoteValues.fields :=
  Portrays.conveys
    (.cons (Entry.slot_mirrors (Codec.list_faithful NoteValue.conveys.faithful) _ _) .nil)
    (Piece.labelled .noteValues) (Piece.apart .noteValues) fun _ => rfl

theorem Note.conveys : Note.codec.Conveys Note.fields :=
  Portrays.conveys
    (.cons (Entry.slot_mirrors Codec.text_faithful _ _) <|
     .cons (Entry.slot_mirrors Codec.text_faithful _ _) <|
     .cons (Entry.slot_mirrors Codec.text_faithful _ _) <|
     .cons (Entry.slot_mirrors NoteValues.conveys.faithful _ _) .nil)
    (Piece.labelled .note) (Piece.apart .note) fun _ => rfl

theorem NoteList.conveys : NoteList.codec.Conveys NoteList.fields :=
  Portrays.conveys
    (.cons (Entry.slot_mirrors (Codec.list_faithful Note.conveys.faithful) _ _) .nil)
    (Piece.labelled .noteList) (Piece.apart .noteList) fun _ => rfl

theorem Rfx.conveys : Rfx.codec.Conveys Rfx.fields :=
  Portrays.conveys
    (.cons (Entry.slot_mirrors Head.conveys.faithful _ _) <|
     .cons (Entry.slot_mirrors NoteList.conveys.faithful _ _) <|
     .cons (Entry.slot_mirrors SupplierList.conveys.faithful _ _) <|
     .cons (Entry.slot_mirrors AttachmentList.conveys.faithful _ _) <|
     .cons (Entry.slot_mirrors AttachmentList.conveys.faithful _ _) .nil)
    (Piece.labelled .rfx) (Piece.apart .rfx) fun _ => rfl

theorem Snapshot.conveys : Snapshot.codec.Conveys Snapshot.fields :=
  Portrays.conveys
    (.cons (Entry.slot_mirrors Head.conveys.faithful _ _) <|
     .cons (Entry.slot_mirrors SupplierList.conveys.faithful _ _) <|
     .cons (Entry.slot_mirrors AttachmentList.conveys.faithful _ _) <|
     .cons (Entry.slot_mirrors AttachmentList.conveys.faithful _ _) .nil)
    (Piece.labelled .snapshot) (Piece.apart .snapshot) fun _ => rfl

theorem Change.conveys : Change.codec.Conveys Change.fields :=
  Portrays.conveys
    (.cons (Entry.required_mirrors (Codec.choice_faithful Command.ofName?_name) _ _) <|
     .cons (Entry.required_mirrors Rfx.conveys.faithful _ _) .nil)
    (Piece.labelled .change) (Piece.apart .change) fun _ => rfl

theorem Receipt.conveys : Receipt.codec.Conveys Receipt.fields :=
  Portrays.conveys
    (.cons (Entry.slot_mirrors Codec.whole_faithful _ _) <|
     .cons (Entry.slot_mirrors Codec.text_faithful _ _) <|
     .cons (Entry.slot_mirrors Codec.text_faithful _ _) <|
     .cons (Entry.slot_mirrors Codec.text_faithful _ _) .nil)
    (Piece.labelled .receipt) (Piece.apart .receipt) fun _ => rfl

theorem PublishOrder.conveys : PublishOrder.codec.Conveys PublishOrder.fields :=
  Portrays.conveys
    (.cons (Entry.required_mirrors Codec.text_faithful _ _) <|
     .cons (Entry.slot_mirrors Codec.text_faithful _ _) <|
     .cons (Entry.required_mirrors Party.conveys.faithful _ _) <|
     .cons (Entry.slot_mirrors Codec.text_faithful _ _) .nil)
    (Piece.labelled .publishOrder) (Piece.apart .publishOrder) fun _ => rfl

namespace Piece

theorem conveys : (p : Piece) → p.codec.Conveys p.fields
  | company => Company.conveys
  | supplier => Supplier.conveys
  | supplierList => SupplierList.conveys
  | attachment => Attachment.conveys
  | attachmentList => AttachmentList.conveys
  | party => Party.conveys
  | head => Head.conveys
  | noteValue => NoteValue.conveys
  | noteValues => NoteValues.conveys
  | note => Note.conveys
  | noteList => NoteList.conveys
  | rfx => Rfx.conveys
  | snapshot => Snapshot.conveys
  | change => Change.conveys
  | receipt => Receipt.conveys
  | publishOrder => PublishOrder.conveys

/-- What is sent for a piece has each field that is set once, under its key in camel case, and
nothing else. -/
theorem write_eq (p : Piece) (m : p.Value) :
    ∃ ms, p.codec.write m = .obj ms ∧ (ms.map Prod.fst).Nodup ∧
      ∀ key j, (key, j) ∈ ms ↔
        ∃ f ∈ p.fields, key = camelCase f.name ∧ (f.value m).json? = some j :=
  ⟨sent p.fields m, p.conveys.writes m, sent_nodup p.conveys.apart m, fun _ _ => mem_sent⟩

/-- However often a value is respelled, it is read as the same or not at all: each change is one
that reading does not see. -/
theorem read_respelled (p : Piece) {j j' : Json}
    (h : Relation.ReflTransGen p.shape.Respelling j j') :
    (p.codec.read j').toOption = (p.codec.read j).toOption := by
  induction h with
  | refl => rfl
  | tail _ hstep ih => rw [p.conveys.faithful.respelled hstep, ih]

/-- Every piece is sent with exactly the fields that are set, each once and under its key in camel
case. It is read back as it was, with the same fields set, null or absent at every depth, and so
it is when any keys of what was sent are replaced by the plain names of their fields or unknown
members are added. Respelled like that, any other value is read as before or not at all. -/
theorem sent_and_read (p : Piece) (m : p.Value) :
    (∃ ms, p.codec.write m = .obj ms ∧ (ms.map Prod.fst).Nodup ∧
      ∀ key j, (key, j) ∈ ms ↔
        ∃ f ∈ p.fields, key = camelCase f.name ∧ (f.value m).json? = some j) ∧
      p.codec.read (p.codec.write m) = Checked.ok m ∧
      (∀ j, Relation.ReflTransGen p.shape.Respelling (p.codec.write m) j →
        p.codec.read j = Checked.ok m) ∧
      ∀ j j', Relation.ReflTransGen p.shape.Respelling j j' →
        (p.codec.read j').toOption = (p.codec.read j).toOption := by
  have hback := p.conveys.faithful.lawful m
  refine ⟨p.write_eq m, hback, fun j hj => ?_, fun j j' h => p.read_respelled h⟩
  apply Checked.toOption_eq_some_iff.1
  rw [p.read_respelled hj, hback]
  rfl

/-- A supplier without a name, under the plain name of its field and beside a member that is not
known, is read like the one that was sent. -/
theorem sent_and_read_nameless :
    let nameless : SupplierList :=
      { suppliers := .set [{ company := .set { id := .set 7, name := .null } }] }
    let company : Json := .obj [("id", .int 7), ("name", .null)]
    (codec .supplierList).write nameless =
        .obj [("supplier", .arr [.obj [("companyData", company)]])] ∧
      (codec .supplierList).read
          (.obj [("supplier", .arr [.obj [("rank", .int 1), ("company_data", company)]])]) =
        Checked.ok nameless := by
  intro nameless company
  let member (name : RawText) (j : Json) : RawText × Json := (name, j)
  have inItem : ∀ {j j' : Json}, (Shape.ofFields Supplier.fields).Respelling j j' →
      (shape .supplierList).Respelling (.obj ([] ++ member "supplier" (.arr ([] ++ j :: [])) :: []))
        (.obj ([] ++ member "supplier" (.arr ([] ++ j' :: [])) :: [])) := fun h =>
    .member List.mem_cons_self (by decide +kernel : ↑"supplier" ∈ keysOf "supplier") (.item h)
  have renamed : (Shape.ofFields Supplier.fields).Respelling
      (.obj ([] ++ member "companyData" company :: []))
      (.obj ([] ++ member "company_data" company :: [])) :=
    .rename List.mem_cons_self (by decide +kernel : ↑"companyData" ∈ keysOf "company_data")
      (by decide +kernel) nofun
  have added : (Shape.ofFields Supplier.fields).Respelling
      (.obj ([] ++ [member "company_data" company]))
      (.obj ([] ++ member "rank" (.int 1) :: [member "company_data" company])) :=
    .unknown (.int 1) (by decide +kernel)
  refine ⟨rfl, (sent_and_read .supplierList nameless).2.2.1 _ ?_⟩
  exact .tail (.single (inItem renamed)) (inItem added)

end Piece

end Sourcing
end TenderDesk
