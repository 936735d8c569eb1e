/-!
# Scenes

Emoji of weather, plants, food, festivities, sports, buildings, animals, parts of the body and
things in use.
-/

namespace TransformPreset

/-- Scenes by name. -/
def sceneEmoji : List (String × String) :=
  [
    ("+1", "👍"), ("-1", "👎"), ("100", "💯"), ("8ball", "🎱"), ("__1", "👎"),
    ("admission_tickets", "🎟"), ("alien", "👽"), ("alien_monster", "👾"), ("american_football", "🏈"),
    ("amphora", "🏺"), ("angel", "👼"), ("anger", "💢"), ("anger_symbol", "💢"),
    ("angry_face_with_horns", "👿"), ("ant", "🐜"), ("antenna_bars", "📶"), ("apple", "🍎"),
    ("art", "🎨"), ("artist_palette", "🎨"), ("athletic_shoe", "👟"), ("atm", "🏧"), ("atm_sign", "🏧"),
    ("baby", "👶"), ("baby_angel", "👼"), ("baby_bottle", "🍼"), ("baby_chick", "🐤"),
    ("backhand_index_pointing_down", "👇"), ("backhand_index_pointing_left", "👈"),
    ("backhand_index_pointing_right", "👉"), ("backhand_index_pointing_up", "👆"), ("badminton", "🏸"),
    ("badminton_racquet_and_shuttlecock", "🏸"), ("balloon", "🎈"), ("bamboo", "🎍"), ("banana", "🍌"),
    ("bank", "🏦"), ("bar_chart", "📊"), ("barber", "💈"), ("barber_pole", "💈"), ("basketball", "🏀"),
    ("beach_with_umbrella", "🏖"), ("bear", "🐻"), ("bear_face", "🐻"), ("beating_heart", "💓"),
    ("bee", "🐝"), ("beer", "🍺"), ("beer_mug", "🍺"), ("beers", "🍻"), ("beetle", "🐞"), ("bento", "🍱"),
    ("bento_box", "🍱"), ("bikini", "👙"), ("bird", "🐦"), ("birthday", "🎂"), ("birthday_cake", "🎂"),
    ("black_flag", "🏴"), ("blond-haired_person", "👱"), ("blossom", "🌼"), ("blowfish", "🐡"),
    ("blue_book", "📘"), ("blue_heart", "💙"), ("boar", "🐗"), ("bomb", "💣"), ("book", "📖"),
    ("bookmark_tabs", "📑"), ("books", "📚"), ("boom", "💥"), ("boot", "👢"),
    ("bottle_with_popping_cork", "🍾"), ("bouquet", "💐"), ("bow_and_arrow", "🏹"), ("bowling", "🎳"),
    ("boy", "👦"), ("bread", "🍞"), ("bride_with_veil", "👰"), ("bridge_at_night", "🌉"),
    ("briefcase", "💼"), ("broken_heart", "💔"), ("bug", "🐛"), ("building_construction", "🏗"),
    ("bulb", "💡"), ("burrito", "🌯"), ("bust_in_silhouette", "👤"), ("busts_in_silhouette", "👥"),
    ("cactus", "🌵"), ("cake", "🍰"), ("calendar", "📆"), ("calling", "📲"), ("camel", "🐫"),
    ("camera", "📷"), ("camera_with_flash", "📸"), ("camping", "🏕"), ("candy", "🍬"),
    ("card_index", "📇"), ("carousel_horse", "🎠"), ("carp_streamer", "🎏"), ("castle", "🏰"),
    ("cat", "🐱"), ("cat2", "🐈"), ("cat_face", "🐱"), ("cd", "💿"), ("chart", "💹"),
    ("chart_decreasing", "📉"), ("chart_increasing", "📈"), ("chart_increasing_with_yen", "💹"),
    ("chart_with_downwards_trend", "📉"), ("chart_with_upwards_trend", "📈"), ("checkered_flag", "🏁"),
    ("chequered_flag", "🏁"), ("cherries", "🍒"), ("cherry_blossom", "🌸"), ("chestnut", "🌰"),
    ("chicken", "🐔"), ("chipmunk", "🐿"), ("chocolate_bar", "🍫"), ("christmas_tree", "🎄"),
    ("cinema", "🎦"), ("circus_tent", "🎪"), ("city_sunrise", "🌇"), ("city_sunset", "🌆"),
    ("cityscape", "🏙"), ("cityscape_at_dusk", "🌆"), ("clap", "👏"), ("clapper", "🎬"),
    ("clapper_board", "🎬"), ("clapping_hands", "👏"), ("classical_building", "🏛"),
    ("clinking_beer_mugs", "🍻"), ("clipboard", "📋"), ("closed_book", "📕"),
    ("closed_mailbox_with_lowered_flag", "📪"), ("closed_mailbox_with_raised_flag", "📫"),
    ("closed_umbrella", "🌂"), ("cloud_with_lightning", "🌩"), ("cloud_with_rain", "🌧"),
    ("cloud_with_snow", "🌨"), ("cloud_with_tornado", "🌪"), ("clutch_bag", "👝"), ("cocktail", "🍸"),
    ("cocktail_glass", "🍸"), ("collision", "💥"), ("computer", "💻"), ("computer_disk", "💽"),
    ("confetti_ball", "🎊"), ("construction_worker", "👷"), ("control_knobs", "🎛"),
    ("convenience_store", "🏪"), ("cooked_rice", "🍚"), ("cookie", "🍪"), ("cooking", "🍳"),
    ("cop", "👮"), ("corn", "🌽"), ("couple", "👫"), ("couple_with_heart", "💑"), ("couplekiss", "💏"),
    ("cow", "🐮"), ("cow2", "🐄"), ("cow_face", "🐮"), ("credit_card", "💳"), ("crescent_moon", "🌙"),
    ("cricket_bat_and_ball", "🏏"), ("cricket_game", "🏏"), ("crocodile", "🐊"),
    ("crossed_flags", "🎌"), ("crown", "👑"), ("cupid", "💘"), ("currency_exchange", "💱"),
    ("curry", "🍛"), ("curry_rice", "🍛"), ("custard", "🍮"), ("cyclone", "🌀"), ("dancer", "💃"),
    ("dancers", "👯"), ("dango", "🍡"), ("dark_skin_tone", "🏿"), ("dart", "🎯"), ("dash", "💨"),
    ("dashing_away", "💨"), ("date", "📅"), ("deciduous_tree", "🌳"), ("department_store", "🏬"),
    ("derelict_house", "🏚"), ("derelict_house_building", "🏚"), ("desert", "🏜"),
    ("desert_island", "🏝"), ("diamond_shape_with_a_dot_inside", "💠"), ("diamond_with_a_dot", "💠"),
    ("direct_hit", "🎯"), ("dizzy", "💫"), ("dog", "🐶"), ("dog2", "🐕"), ("dog_face", "🐶"),
    ("dollar", "💵"), ("dollar_banknote", "💵"), ("dolls", "🎎"), ("dolphin", "🐬"), ("doughnut", "🍩"),
    ("dragon", "🐉"), ("dragon_face", "🐲"), ("dress", "👗"), ("dromedary_camel", "🐪"),
    ("droplet", "💧"), ("dvd", "📀"), ("e-mail", "📧"), ("e__mail", "📧"), ("ear", "👂"),
    ("ear_of_corn", "🌽"), ("ear_of_rice", "🌾"), ("earth_africa", "🌍"), ("earth_americas", "🌎"),
    ("earth_asia", "🌏"), ("egg", "🍳"), ("eggplant", "🍆"), ("elephant", "🐘"),
    ("emoji_modifier_fitzpatrick_type__1__2", "🏻"), ("emoji_modifier_fitzpatrick_type__3", "🏼"),
    ("emoji_modifier_fitzpatrick_type__4", "🏽"), ("emoji_modifier_fitzpatrick_type__5", "🏾"),
    ("emoji_modifier_fitzpatrick_type__6", "🏿"), ("envelope_with_arrow", "📩"), ("euro", "💶"),
    ("euro_banknote", "💶"), ("european_castle", "🏰"), ("european_post_office", "🏤"),
    ("evergreen_tree", "🌲"), ("ewe", "🐑"), ("eye", "👁"), ("eyeglasses", "👓"), ("eyes", "👀"),
    ("facepunch", "👊"), ("factory", "🏭"), ("fallen_leaf", "🍂"), ("family", "👪"), ("fax", "📠"),
    ("fax_machine", "📠"), ("feet", "🐾"), ("ferris_wheel", "🎡"), ("field_hockey", "🏑"),
    ("field_hockey_stick_and_ball", "🏑"), ("file_folder", "📁"), ("film_frames", "🎞"),
    ("film_projector", "📽"), ("fireworks", "🎆"), ("first_quarter_moon", "🌓"),
    ("first_quarter_moon_face", "🌛"), ("first_quarter_moon_with_face", "🌛"), ("fish", "🐟"),
    ("fish_cake", "🍥"), ("fish_cake_with_swirl", "🍥"), ("fishing_pole", "🎣"),
    ("fishing_pole_and_fish", "🎣"), ("flags", "🎏"), ("flexed_biceps", "💪"), ("flipper", "🐬"),
    ("floppy_disk", "💾"), ("flower_playing_cards", "🎴"), ("fog", "🌫"), ("foggy", "🌁"),
    ("football", "🏈"), ("footprints", "👣"), ("fork_and_knife", "🍴"),
    ("fork_and_knife_with_plate", "🍽"), ("four_leaf_clover", "🍀"), ("french_fries", "🍟"),
    ("fried_shrimp", "🍤"), ("fries", "🍟"), ("frog", "🐸"), ("frog_face", "🐸"),
    ("front-facing_baby_chick", "🐥"), ("full_moon", "🌕"), ("full_moon_face", "🌝"),
    ("full_moon_with_face", "🌝"), ("game_die", "🎲"), ("gem", "💎"), ("gem_stone", "💎"),
    ("ghost", "👻"), ("gift", "🎁"), ("gift_heart", "💝"), ("girl", "👧"), ("glasses", "👓"),
    ("globe_showing_americas", "🌎"), ("globe_showing_asia-australia", "🌏"),
    ("globe_showing_europe-africa", "🌍"), ("globe_with_meridians", "🌐"), ("glowing_star", "🌟"),
    ("goat", "🐐"), ("goblin", "👺"), ("golfer", "🏌"), ("graduation_cap", "🎓"), ("grapes", "🍇"),
    ("green_apple", "🍏"), ("green_book", "📗"), ("green_heart", "💚"), ("growing_heart", "💗"),
    ("guard", "💂"), ("guardsman", "💂"), ("guitar", "🎸"), ("haircut", "💇"), ("hamburger", "🍔"),
    ("hamster", "🐹"), ("hamster_face", "🐹"), ("handbag", "👜"), ("hankey", "💩"),
    ("hatched_chick", "🐥"), ("hatching_chick", "🐣"), ("headphone", "🎧"), ("headphones", "🎧"),
    ("heart_decoration", "💟"), ("heart_with_arrow", "💘"), ("heart_with_ribbon", "💝"),
    ("heartbeat", "💓"), ("heartpulse", "💗"), ("heavy_dollar_sign", "💲"), ("herb", "🌿"),
    ("hibiscus", "🌺"), ("high-heeled_shoe", "👠"), ("high_heel", "👠"), ("honey_pot", "🍯"),
    ("honeybee", "🐝"), ("horse", "🐴"), ("horse_face", "🐴"), ("horse_racing", "🏇"),
    ("hospital", "🏥"), ("hot_dog", "🌭"), ("hot_pepper", "🌶"), ("hotel", "🏨"), ("house", "🏠"),
    ("house_buildings", "🏘"), ("house_with_garden", "🏡"), ("houses", "🏘"), ("hundred_points", "💯"),
    ("ice_cream", "🍨"), ("ice_hockey", "🏒"), ("ice_hockey_stick_and_puck", "🏒"), ("icecream", "🍦"),
    ("imp", "👿"), ("inbox_tray", "📥"), ("incoming_envelope", "📨"), ("information_desk_person", "💁"),
    ("iphone", "📱"), ("izakaya_lantern", "🏮"), ("jack-o-lantern", "🎃"), ("jack_o_lantern", "🎃"),
    ("japanese_castle", "🏯"), ("japanese_dolls", "🎎"), ("japanese_goblin", "👺"),
    ("japanese_ogre", "👹"), ("japanese_post_office", "🏣"), ("jeans", "👖"), ("kimono", "👘"),
    ("kiss", "💋"), ("kiss_mark", "💋"), ("koala", "🐨"), ("label", "🏷"), ("lady_beetle", "🐞"),
    ("lantern", "🏮"), ("laptop_computer", "💻"), ("last_quarter_moon", "🌗"),
    ("last_quarter_moon_face", "🌜"), ("last_quarter_moon_with_face", "🌜"),
    ("leaf_fluttering_in_wind", "🍃"), ("leaves", "🍃"), ("ledger", "📒"), ("lemon", "🍋"),
    ("leopard", "🐆"), ("level_slider", "🎚"), ("light_bulb", "💡"), ("light_skin_tone", "🏻"),
    ("lips", "👄"), ("lipstick", "💄"), ("lollipop", "🍭"), ("loudspeaker", "📢"), ("love_hotel", "🏩"),
    ("love_letter", "💌"), ("mailbox", "📫"), ("mailbox_closed", "📪"), ("mailbox_with_mail", "📬"),
    ("mailbox_with_no_mail", "📭"), ("man", "👨"), ("man_and_woman_holding_hands", "👫"),
    ("man_with_chinese_cap", "👲"), ("man_with_gua_pi_mao", "👲"), ("man_with_turban", "👳"),
    ("mans_shoe", "👞"), ("man’s_shoe", "👞"), ("maple_leaf", "🍁"), ("massage", "💆"),
    ("meat_on_bone", "🍖"), ("medium_dark_skin_tone", "🏾"), ("medium_light_skin_tone", "🏼"),
    ("medium_skin_tone", "🏽"), ("mega", "📣"), ("megaphone", "📣"), ("melon", "🍈"), ("memo", "📝"),
    ("microphone", "🎤"), ("military_medal", "🎖"), ("milky_way", "🌌"), ("minidisc", "💽"),
    ("mobile_phone", "📱"), ("mobile_phone_off", "📴"), ("mobile_phone_with_arrow", "📲"),
    ("money_bag", "💰"), ("money_with_wings", "💸"), ("moneybag", "💰"), ("monkey", "🐒"),
    ("monkey_face", "🐵"), ("moon", "🌔"), ("moon_viewing_ceremony", "🎑"), ("mortar_board", "🎓"),
    ("motorcycle", "🏍"), ("mouse", "🐭"), ("mouse2", "🐁"), ("mouse_face", "🐭"), ("mouth", "👄"),
    ("movie_camera", "🎥"), ("muscle", "💪"), ("mushroom", "🍄"), ("musical_keyboard", "🎹"),
    ("musical_note", "🎵"), ("musical_notes", "🎶"), ("musical_score", "🎼"), ("nail_care", "💅"),
    ("nail_polish", "💅"), ("name_badge", "📛"), ("national_park", "🏞"), ("necktie", "👔"),
    ("new_moon", "🌑"), ("new_moon_face", "🌚"), ("new_moon_with_face", "🌚"), ("newspaper", "📰"),
    ("night_with_stars", "🌃"), ("no_mobile_phones", "📵"), ("nose", "👃"), ("notebook", "📓"),
    ("notebook_with_decorative_cover", "📔"), ("notes", "🎶"), ("ocean", "🌊"), ("octopus", "🐙"),
    ("oden", "🍢"), ("office", "🏢"), ("office_building", "🏢"), ("ogre", "👹"), ("ok_hand", "👌"),
    ("old_man", "👴"), ("old_woman", "👵"), ("older_man", "👴"), ("older_woman", "👵"),
    ("oncoming_fist", "👊"), ("open_book", "📖"), ("open_file_folder", "📂"), ("open_hands", "👐"),
    ("open_mailbox_with_lowered_flag", "📭"), ("open_mailbox_with_raised_flag", "📬"),
    ("optical_disk", "💿"), ("orange_book", "📙"), ("outbox_tray", "📤"), ("ox", "🐂"),
    ("package", "📦"), ("page_facing_up", "📄"), ("page_with_curl", "📃"), ("pager", "📟"),
    ("palm_tree", "🌴"), ("panda_face", "🐼"), ("paperclip", "📎"), ("party_popper", "🎉"),
    ("paw_prints", "🐾"), ("peach", "🍑"), ("pear", "🍐"), ("pencil", "📝"), ("penguin", "🐧"),
    ("people_with_bunny_ears", "👯"), ("performing_arts", "🎭"), ("person_getting_haircut", "💇"),
    ("person_getting_massage", "💆"), ("person_golfing", "🏌"), ("person_lifting_weights", "🏋"),
    ("person_running", "🏃"), ("person_surfing", "🏄"), ("person_swimming", "🏊"),
    ("person_tipping_hand", "💁"), ("person_wearing_turban", "👳"), ("person_with_blond_hair", "👱"),
    ("pig", "🐷"), ("pig2", "🐖"), ("pig_face", "🐷"), ("pig_nose", "🐽"), ("pile_of_poo", "💩"),
    ("pill", "💊"), ("pine_decoration", "🎍"), ("pineapple", "🍍"), ("ping_pong", "🏓"), ("pizza", "🍕"),
    ("point_down", "👇"), ("point_left", "👈"), ("point_right", "👉"), ("point_up_2", "👆"),
    ("police_officer", "👮"), ("poodle", "🐩"), ("pool_8_ball", "🎱"), ("poop", "💩"), ("popcorn", "🍿"),
    ("post_office", "🏣"), ("postal_horn", "📯"), ("postbox", "📮"), ("pot_of_food", "🍲"),
    ("pouch", "👝"), ("poultry_leg", "🍗"), ("pound", "💷"), ("pound_banknote", "💷"),
    ("prayer_beads", "📿"), ("princess", "👸"), ("punch", "👊"), ("purple_heart", "💜"), ("purse", "👛"),
    ("pushpin", "📌"), ("rabbit", "🐰"), ("rabbit2", "🐇"), ("rabbit_face", "🐰"), ("racehorse", "🐎"),
    ("racing_car", "🏎"), ("racing_motorcycle", "🏍"), ("radio", "📻"), ("rainbow", "🌈"), ("ram", "🐏"),
    ("ramen", "🍜"), ("rat", "🐀"), ("red_apple", "🍎"), ("red_paper_lantern", "🏮"),
    ("reminder_ribbon", "🎗"), ("revolving_hearts", "💞"), ("ribbon", "🎀"), ("rice", "🍚"),
    ("rice_ball", "🍙"), ("rice_cracker", "🍘"), ("rice_scene", "🎑"), ("ring", "💍"),
    ("roasted_sweet_potato", "🍠"), ("roller_coaster", "🎢"), ("rooster", "🐓"), ("rose", "🌹"),
    ("rosette", "🏵"), ("round_pushpin", "📍"), ("rugby_football", "🏉"), ("runner", "🏃"),
    ("running", "🏃"), ("running_shirt", "🎽"), ("running_shirt_with_sash", "🎽"),
    ("running_shoe", "👟"), ("sake", "🍶"), ("sandal", "👡"), ("santa", "🎅"), ("santa_claus", "🎅"),
    ("satellite", "📡"), ("satellite_antenna", "📡"), ("saxophone", "🎷"), ("school", "🏫"),
    ("school_backpack", "🎒"), ("school_satchel", "🎒"), ("scroll", "📜"), ("seat", "💺"),
    ("seedling", "🌱"), ("shaved_ice", "🍧"), ("sheaf_of_rice", "🌾"), ("sheep", "🐑"), ("shell", "🐚"),
    ("shirt", "👕"), ("shit", "💩"), ("shoe", "👞"), ("shooting_star", "🌠"), ("shortcake", "🍰"),
    ("signal_strength", "📶"), ("ski", "🎿"), ("skis", "🎿"), ("skull", "💀"), ("slot_machine", "🎰"),
    ("snail", "🐌"), ("snake", "🐍"), ("snow-capped_mountain", "🏔"), ("snow_capped_mountain", "🏔"),
    ("snowboarder", "🏂"), ("soft_ice_cream", "🍦"), ("space_invader", "👾"), ("spaghetti", "🍝"),
    ("sparkler", "🎇"), ("sparkling_heart", "💖"), ("speech_balloon", "💬"), ("spiral_shell", "🐚"),
    ("sports_medal", "🏅"), ("spouting_whale", "🐳"), ("stadium", "🏟"), ("star2", "🌟"),
    ("stars", "🌠"), ("steaming_bowl", "🍜"), ("stew", "🍲"), ("straight_ruler", "📏"),
    ("strawberry", "🍓"), ("studio_microphone", "🎙"), ("sun_behind_large_cloud", "🌥"),
    ("sun_behind_rain_cloud", "🌦"), ("sun_behind_small_cloud", "🌤"), ("sun_with_face", "🌞"),
    ("sunflower", "🌻"), ("sunrise", "🌅"), ("sunrise_over_mountains", "🌄"), ("sunset", "🌇"),
    ("surfer", "🏄"), ("sushi", "🍣"), ("sweat_droplets", "💦"), ("sweat_drops", "💦"),
    ("sweet_potato", "🍠"), ("swimmer", "🏊"), ("syringe", "💉"), ("t-shirt", "👕"),
    ("table_tennis_paddle_and_ball", "🏓"), ("taco", "🌮"), ("tada", "🎉"), ("tanabata_tree", "🎋"),
    ("tangerine", "🍊"), ("tea", "🍵"), ("teacup_without_handle", "🍵"), ("tear-off_calendar", "📆"),
    ("telephone_receiver", "📞"), ("television", "📺"), ("tennis", "🎾"), ("thermometer", "🌡"),
    ("thought_balloon", "💭"), ("thumbs_down", "👎"), ("thumbs_up", "👍"), ("thumbsdown", "👎"),
    ("thumbsup", "👍"), ("ticket", "🎫"), ("tiger", "🐯"), ("tiger2", "🐅"), ("tiger_face", "🐯"),
    ("tomato", "🍅"), ("tongue", "👅"), ("top_hat", "🎩"), ("tophat", "🎩"), ("tornado", "🌪"),
    ("triangular_ruler", "📐"), ("trophy", "🏆"), ("tropical_drink", "🍹"), ("tropical_fish", "🐠"),
    ("trumpet", "🎺"), ("tshirt", "👕"), ("tulip", "🌷"), ("turtle", "🐢"), ("tv", "📺"),
    ("two-hump_camel", "🐫"), ("two_hearts", "💕"), ("two_men_holding_hands", "👬"),
    ("two_women_holding_hands", "👭"), ("vhs", "📼"), ("vibration_mode", "📳"), ("video_camera", "📹"),
    ("video_game", "🎮"), ("videocassette", "📼"), ("violin", "🎻"), ("volcano", "🌋"),
    ("volleyball", "🏐"), ("waning_crescent_moon", "🌘"), ("waning_gibbous_moon", "🌖"),
    ("water_buffalo", "🐃"), ("water_wave", "🌊"), ("watermelon", "🍉"), ("wave", "👋"),
    ("waving_black_flag", "🏴"), ("waving_hand", "👋"), ("waving_white_flag", "🏳"),
    ("waxing_crescent_moon", "🌒"), ("waxing_gibbous_moon", "🌔"), ("wedding", "💒"),
    ("weight_lifter", "🏋"), ("whale", "🐳"), ("whale2", "🐋"), ("white_flag", "🏳"),
    ("white_flower", "💮"), ("white_sun_behind_cloud", "🌥"),
    ("white_sun_behind_cloud_with_rain", "🌦"), ("white_sun_with_small_cloud", "🌤"),
    ("wind_blowing_face", "🌬"), ("wind_chime", "🎐"), ("wind_face", "🌬"), ("wine_glass", "🍷"),
    ("wolf", "🐺"), ("wolf_face", "🐺"), ("woman", "👩"), ("woman_dancing", "💃"),
    ("womans_clothes", "👚"), ("womans_hat", "👒"), ("woman’s_boot", "👢"), ("woman’s_clothes", "👚"),
    ("woman’s_hat", "👒"), ("woman’s_sandal", "👡"), ("wrapped_gift", "🎁"), ("yellow_heart", "💛"),
    ("yen", "💴"), ("yen_banknote", "💴"), ("zzz", "💤")
  ]

end TransformPreset
