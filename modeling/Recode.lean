import Recode.Bench.Converting
import Recode.Bench.Decoding
import Recode.Bench.Encoding
import Recode.Bench.Stack
import Recode.Engine.Directory
import Recode.Loopback
import Recode.Nal.AnnexBFilter
import Recode.Pool.Lending
import Recode.Proofs.Activity
import Recode.Proofs.Announcement
import Recode.Proofs.Cascade
import Recode.Proofs.ConfigText
import Recode.Proofs.Conversion
import Recode.Proofs.Emission
import Recode.Proofs.EndOfStream
import Recode.Proofs.Frugality
import Recode.Proofs.Lending
import Recode.Proofs.Loopback.Conservation
import Recode.Proofs.Loopback.Machine
import Recode.Proofs.Machine
import Recode.Proofs.Nal.Classification
import Recode.Proofs.Nal.HeaderScan
import Recode.Proofs.Nal.Offsets
import Recode.Proofs.Nal.Record
import Recode.Proofs.Nal.Reframing
import Recode.Proofs.Nal.Salvage
import Recode.Proofs.Negotiation
import Recode.Proofs.Number.Whole
import Recode.Proofs.Observation
import Recode.Proofs.Prefixes
import Recode.Proofs.Refusal
import Recode.Proofs.Registration
import Recode.Proofs.Reuse
import Recode.Proofs.Selection
import Recode.Proofs.SettingsText
import Recode.Proofs.Stacking
import Recode.Proofs.Staged
import Recode.Proofs.Table
import Recode.Proofs.Task.Handover
import Recode.Proofs.Task.Schedule
import Recode.Proofs.Task.Stopping
import Recode.Scripted.Engine
import Recode.Sink.Recorder
import Recode.Task.Settling
