import FlightHub.Consumer.Tables
import FlightHub.Consumer.Serializability
import FlightHub.Consumer.Isolation
import FlightHub.Consumer.Fidelity
import FlightHub.Consumer.Loss
import FlightHub.Consumer.Order
import FlightHub.Consumer.Shutdown
import FlightHub.Dashboard.Snapshot
import FlightHub.Ingestion.OpenSkyClient
import FlightHub.Postgres.Lexer
import FlightHub.AI.TextToSql
import FlightHub.AI.RowLimit
import FlightHub.AI.Catalog
import FlightHub.AI.Anomalies
import FlightHub.Ingestion.Delivery
import FlightHub.AI.LLMProvider
import FlightHub.Consumer.WeatherFailures
import FlightHub.Consumer.WeatherGrid
import FlightHub.AI.Summary
import FlightHub.Dashboard.Colors
import FlightHub.Common.Config
import FlightHub.Dashboard.LivePanel
import FlightHub.Dashboard.Gate
import FlightHub.Consumer.Progress
import FlightHub.Ingestion.Progress
import FlightHub.Ingestion.Fifo
import FlightHub.Consumer.SingleWorker
import FlightHub.Pipeline.ExactlyOnce
import FlightHub.AI.CodeFence
import FlightHub.Dashboard.Served
import FlightHub.Dashboard.Sessions
import FlightHub.Dashboard.History
import FlightHub.AI.Haversine
import FlightHub.Consumer.Completion
