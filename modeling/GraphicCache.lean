import GraphicCache.Main
import GraphicCache.Proofs.Config.Deviation
import GraphicCache.Proofs.Config.Environment
import GraphicCache.Proofs.Config.Switch
import GraphicCache.Proofs.Run.Admission
import GraphicCache.Proofs.Run.Contents
import GraphicCache.Proofs.Run.Copying
import GraphicCache.Proofs.Run.Disabled
import GraphicCache.Proofs.Run.Exactness
import GraphicCache.Proofs.Run.Greed
import GraphicCache.Proofs.Run.Headroom
import GraphicCache.Proofs.Run.Healing
import GraphicCache.Proofs.Run.History
import GraphicCache.Proofs.Run.Holding
import GraphicCache.Proofs.Run.Identity
import GraphicCache.Proofs.Run.Intake
import GraphicCache.Proofs.Run.Isolation
import GraphicCache.Proofs.Run.Newcomers
import GraphicCache.Proofs.Run.Operations
import GraphicCache.Proofs.Run.Process
import GraphicCache.Proofs.Run.Punctuality
import GraphicCache.Proofs.Run.Recency
import GraphicCache.Proofs.Run.Refusal
import GraphicCache.Proofs.Run.Resizing
import GraphicCache.Proofs.Run.Retrying
import GraphicCache.Proofs.Run.Scripts
import GraphicCache.Proofs.Run.Shapes
import GraphicCache.Proofs.Run.Showing
import GraphicCache.Proofs.Run.Storing
import GraphicCache.Proofs.Run.Thresholds
import GraphicCache.Proofs.Run.Triggers
import GraphicCache.Proofs.Run.Unregistered
import GraphicCache.Proofs.Run.Unwinding
import GraphicCache.Proofs.Simulation.Outcome
import GraphicCache.Proofs.SwapFile.Format
import GraphicCache.Proofs.SwapFile.Length
import GraphicCache.Proofs.SwapFile.Truncation
