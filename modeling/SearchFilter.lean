import SearchFilter.CommandLine.Run
import SearchFilter.Literal
import SearchFilter.Main
import SearchFilter.Proofs.Idempotence
import SearchFilter.Proofs.Sessions
import SearchFilter.Session
import SearchFilter.Settings.Json
import SearchFilter.Proofs.Refinement
import SearchFilter.Proofs.Removal
import SearchFilter.Proofs.Derivations
import SearchFilter.Proofs.Revisions
import SearchFilter.Proofs.SingleSelect
import SearchFilter.Proofs.Additions
import SearchFilter.Proofs.Erasure
import SearchFilter.Proofs.Congruence
import SearchFilter.Proofs.Gathering
import SearchFilter.Proofs.Divisions
import SearchFilter.Proofs.Values
import SearchFilter.Proofs.Locality
import SearchFilter.Proofs.Accounts
import SearchFilter.Proofs.Pushing
import SearchFilter.Proofs.Quotations
import SearchFilter.Proofs.JsonLiterals
import SearchFilter.Proofs.JsonTexts
import SearchFilter.Proofs.JsonViews
