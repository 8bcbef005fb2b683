import FeedDesk.Catalog.Fixture

namespace FeedDesk

/-!
A small catalog to try the desk with: current offers, historical price points, products without a
supplier, and feeding rules of which some are inactive.
-/

namespace Fixture

def sample : Fixture where
  products := [
    { name := "Wheat Straw", code := some "MP-UAE-001", category := some "Fodder",
      cost := some (.ofDecimal false 85 (-2)), currency := some "AED",
      supplier := some "Gulf Fodder Trading", region := some "UAE",
      email := some "sales@gulffodder.ae", phone := some "+971 4 555 0101",
      address := some "Al Quoz, Dubai", createdAt := some 1718409600 },
    { name := "Wheat Straw", code := some "MP-SA-001", category := some "Fodder",
      cost := some (.ofDecimal false 95 (-2)), currency := some "SAR",
      supplier := some "Al Rajhi Feeds", region := some "Saudi Arabia",
      email := some "info@alrajhifeeds.sa", phone := some "+966 11 555 0202",
      createdAt := some 1718409600 },
    { name := "Wheat Straw", code := some "MP-EG-001", category := some "Fodder",
      cost := some (.ofDecimal false 65 (-1)), currency := some "EGP",
      supplier := some "Nile Valley Agro", region := some "Egypt",
      email := some "contact@nileagro.eg", createdAt := some 1718409600 },
    { name := "Alfalfa hay (mid-bloom)", code := some "MP-UAE-002", category := some "Fodder",
      cost := some (.ofDecimal false 14 (-1)), currency := some "AED",
      supplier := some "Gulf Fodder Trading", region := some "UAE",
      email := some "sales@gulffodder.ae", phone := some "+971 4 555 0101",
      createdAt := some 1718409600 },
    { name := "Alfalfa hay (mid-bloom)", code := some "MP-QA-001", category := some "Fodder",
      cost := some (.ofDecimal false 155 (-2)), currency := some "QAR",
      supplier := some "Doha Livestock Supplies", region := some "Qatar",
      phone := some "+974 4 555 0303", createdAt := some 1718409600 },
    { name := "Barley", code := some "MP-UAE-003", category := some "Fodder",
      cost := some (.ofDecimal false 11 (-1)), currency := some "AED",
      supplier := some "Emirates Grain Co", region := some "UAE",
      email := some "trade@emiratesgrain.ae", createdAt := some 1718409600 },
    { name := "Barley", code := some "MP-UAE-004", category := some "Fodder",
      cost := some (.ofDecimal false 13 (-1)), currency := some "AED",
      supplier := some "Gulf Fodder Trading", region := some "UAE",
      email := some "sales@gulffodder.ae", phone := some "+971 4 555 0101",
      createdAt := some 1718409600 },
    { name := "Barley Flakes", code := some "MP-SA-002", category := some "Concentrate",
      cost := some (.ofDecimal false 16 (-1)), currency := some "SAR",
      supplier := some "Al Rajhi Feeds", region := some "Saudi Arabia",
      email := some "info@alrajhifeeds.sa", createdAt := some 1718409600 },
    { name := "Soya Bean Meal", code := some "MP-SA-003", category := some "Concentrate",
      cost := some (.ofDecimal false 24 (-1)), currency := some "SAR",
      supplier := some "Al Rajhi Feeds", region := some "Saudi Arabia",
      email := some "info@alrajhifeeds.sa", createdAt := some 1718409600 },
    { name := "Molasses", code := some "MP-EG-002", category := some "Additive",
      cost := some (.ofDecimal false 42 (-1)), currency := some "EGP",
      supplier := some "Nile Valley Agro", region := some "Egypt",
      email := some "contact@nileagro.eg", createdAt := some 1718409600 },
    { name := "Urea", code := some "FP-012", category := some "Additive",
      cost := some (.ofDecimal false 6 (-1)), currency := some "USD", region := some "UAE",
      isStandard := true, createdAt := some 1718409600 },
    { name := "Wheat Straw", code := some "FP-002", category := some "Fodder",
      cost := some (.ofDecimal false 3 (-1)), currency := some "USD", region := some "UAE",
      isStandard := true, createdAt := some 1718409600 },
    { name := "Wheat Straw", code := some "HIST-UAE-001", category := some "Fodder",
      cost := some (.ofDecimal false 9 (-1)), currency := some "AED",
      supplier := some "Gulf Fodder Trading", region := some "UAE", createdAt := some 1705276800,
      isActive := false },
    { name := "Wheat Straw", code := some "HIST-UAE-002", category := some "Fodder",
      cost := some (.ofDecimal false 78 (-2)), currency := some "AED",
      supplier := some "Gulf Fodder Trading", region := some "UAE", createdAt := some 1710460800,
      isActive := false },
    { name := "Wheat Straw", code := some "HIST-UAE-003", category := some "Fodder",
      cost := some (.ofDecimal false 82 (-2)), currency := some "AED",
      supplier := some "Gulf Fodder Trading", region := some "UAE", createdAt := some 1718409600,
      isActive := false },
    { name := "Alfalfa hay (mid-bloom)", code := some "HIST-UAE-004", category := some "Fodder",
      cost := some (.ofDecimal false 135 (-2)), currency := some "AED",
      supplier := some "Gulf Fodder Trading", region := some "UAE", createdAt := some 1707955200,
      isActive := false }]
  restrictions := [
    { code := "FP-012", species := some "cattle", leastAge := some 6, focus := some "beef",
      feedCap := some (.ofDecimal false 10 (-1)),
      concentrateCap := some (.ofDecimal false 30 (-1)) },
    { code := "FP-012", species := some "sheep", feedCap := some (.ofDecimal false 5 (-1)) },
    { code := "FP-012", species := some "goat", feedCap := some (.ofDecimal false 4 (-1)),
      isActive := false },
    { code := "MP-EG-002", species := some "cattle", sex := some "female",
      lactation := some "early", focus := some "dairy",
      feedCap := some (.ofDecimal false 100 (-1)) },
    { code := "XX-999", species := some "cattle", feedCap := some (.ofDecimal false 50 (-1)) }]

end Fixture
end FeedDesk
