import VtsaCsms.Billing.DoubleEntryLedger

/-!
# Invoices

The invoice rows of the billing module. Document references, descriptions and the parts a
total is made of are not read back by any modelled code.
-/
namespace VtsaCsms.Billing
open Foundation

/-- `platformFeeMinor` is `source_snapshot['rating']['platform_fee_minor']`. -/
structure RatedCharge where
  chargeDetailRecordId : Nat
  currency : String
  totalMinor : Int
  platformFeeMinor : Option Int
  deriving DecidableEq, Repr

structure Invoice where
  billingProfileId : String
  status : String
  currency : String
  totalMinor : Int
  amountPaidMinor : Int := 0
  deriving DecidableEq, Repr

/-- An invoice with the rated charge behind each of its lines. -/
structure LoadedInvoice extends Invoice where
  lines : List (Option RatedCharge)

end VtsaCsms.Billing
